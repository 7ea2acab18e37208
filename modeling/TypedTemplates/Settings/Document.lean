import TypedTemplates.Toml.Reader

/-!
# Settings as they are written down

A settings document holds the version of its form, and the sections `store` and `logging`, which may be left out. Keys
that mean nothing are passed over. A section may also be an array of its values in the order of their names here.
-/

namespace TypedTemplates

open Toml (Value)

/-- The section about the store. -/
structure StoreSection where
  path? : Option String := none
  storeKey? : Option String := none
  deriving DecidableEq, Repr

/-- The section about logging. -/
structure LoggingSection where
  level : String := "warn"
  fileLevel? : Option String := none
  file? : Option String := none
  deriving DecidableEq, Repr

structure SettingsDocument where
  version : Nat
  store : StoreSection
  logging : LoggingSection
  deriving DecidableEq, Repr

namespace SettingsDocument

/-! ### Values that are passed over -/

/-- Whether an integer fits in 128 bits, with a sign or without. -/
def fits (n : Int) : Bool :=
  -(Nat.pow 2 127 : Int) ≤ n && n < (Nat.pow 2 128 : Int)

mutual

/-- Whether every number in a value can be held. -/
def isReadable : Value → Bool
  | .integer n => fits n
  | .float literal =>
    match Toml.floatLiteral? literal with
    | some parts => parts.isFinite
    | none => true
  | .array items => areReadable items
  | .table _ members => membersAreReadable members
  | .tables earlier last => tablesAreReadable earlier && membersAreReadable last
  | _ => true

def areReadable : List Value → Bool
  | [] => true
  | v :: vs => isReadable v && areReadable vs

def membersAreReadable : List (String × Value) → Bool
  | [] => true
  | (_, v) :: ms => isReadable v && membersAreReadable ms

def tablesAreReadable : List (List (String × Value)) → Bool
  | [] => true
  | t :: ts => membersAreReadable t && tablesAreReadable ts

end

/-- Whether the members under other keys than these can be read. -/
def othersAreReadable (known : List String) (members : Keyed Value) : Bool :=
  membersAreReadable (members.filter fun member => !known.contains member.1)

/-! ### Fields -/

/-- A text, if there is a value; the value must be one. -/
def optionalText? : Option Value → Option (Option String)
  | none => some none
  | some (.string s) => some (some s)
  | some _ => none

/-- A text, or the default if there is no value. -/
def textOr? (default : String) (value : Option Value) : Option String :=
  (optionalText? value).map (·.getD default)

/-- The version: a number of at most 32 bits. -/
def version? : Option Value → Option Nat
  | some (.integer n) => if 0 ≤ n && n < UInt32.size then some n.toNat else none
  | _ => none

/-! ### Sections -/

/-- Tables that share a header, as one array. -/
def tablesAsItems (earlier : List (Keyed Value)) (last : Keyed Value) : List Value :=
  (earlier ++ [last]).map (.table .header)

def storeOfItems? : List Value → Option StoreSection
  | .string path :: .string key :: _ => some ⟨some path, some key⟩
  | _ => none

def storeOfMembers? (members : Keyed Value) : Option StoreSection := do
  guard (othersAreReadable ["path", "namespace"] members)
  return ⟨← optionalText? (members.find? "path"), ← optionalText? (members.find? "namespace")⟩

/-- The section about the store. A date or a time has none of its keys. -/
def store? : Option Value → Option StoreSection
  | none | some (.dateTime _) => some {}
  | some (.table _ members) => storeOfMembers? members
  | some (.array items) => storeOfItems? items
  | some (.tables earlier last) => storeOfItems? (tablesAsItems earlier last)
  | some _ => none

def loggingOfItems? (items : List Value) : Option LoggingSection := do
  return ⟨← textOr? "warn" items[0]?, ← optionalText? items[1]?, ← optionalText? items[2]?⟩

def loggingOfMembers? (members : Keyed Value) : Option LoggingSection := do
  guard (othersAreReadable ["level", "file_level", "file"] members)
  return ⟨← textOr? "warn" (members.find? "level"), ← optionalText? (members.find? "file_level"),
    ← optionalText? (members.find? "file")⟩

/-- The section about logging. A date or a time has none of its keys. -/
def logging? : Option Value → Option LoggingSection
  | none | some (.dateTime _) => some {}
  | some (.table _ members) => loggingOfMembers? members
  | some (.array items) => loggingOfItems? items
  | some (.tables earlier last) => loggingOfItems? (tablesAsItems earlier last)
  | some _ => none

/-- The settings in the members of a document. -/
def ofMembers? (members : Keyed Value) : Option SettingsDocument := do
  guard (othersAreReadable ["version", "store", "logging"] members)
  return ⟨← version? (members.find? "version"), ← store? (members.find? "store"),
    ← logging? (members.find? "logging")⟩

/-- The settings in a text. -/
def ofText? (text : String) : Option SettingsDocument :=
  (Toml.document? text).bind ofMembers?

end SettingsDocument

end TypedTemplates
