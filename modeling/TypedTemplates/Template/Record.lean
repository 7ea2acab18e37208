import TypedTemplates.Json.Printer
import TypedTemplates.Json.Reader
import TypedTemplates.Template.Error
import TypedTemplates.Template.Variable

/-!
# Variables as JSON records

A variable is written as an object with its name, type and value, and a set of variables as an object with one
record for each name, in the order of the set. Reading is more lenient: a record may be an array, its members may
stand in any order, other members are passed over, the value may be missing, and the type may be an object whose
one member has the type word as its name and null as its value.
-/

namespace TypedTemplates

open Json (Value Tree Symbol)

def VarType.toJson (t : VarType) : Value :=
  .string t.token

/-- The type written as its word, or as an object that holds null under its word. -/
def VarType.ofJson? : Value → Option VarType
  | .string word => VarType.ofToken? word
  | .object [(word, .null)] => VarType.ofToken? word
  | _ => none

namespace Variable

def toJson (v : Variable) : Value :=
  .object [("name", .string v.name), ("type", v.type.toJson), ("value", .string v.value)]

/-- The text under a key, or `missing` if the key is absent. -/
def textMember? (key : String) (missing : Option String) (members : List (String × Value)) : Option String :=
  match Keyed.find? key members with
  | some (.string s) => some s
  | some _ => none
  | none => missing

/-- The members that a record reads. -/
def memberNames : List String := ["name", "type", "value"]

/-- The variable of a record whose members are given, none of those it reads twice. -/
def ofMembers? (members : List (String × Value)) : Option Variable :=
  if memberNames.any fun key => (members.countP fun m => m.1 == key) > 1 then none
  else do
    let name ← textMember? "name" none members
    let type ← (Keyed.find? "type" members).bind VarType.ofJson?
    let value ← textMember? "value" (some "") members
    return ⟨name, type, value⟩

/-- The variable of a record. -/
def ofJson? : Value → Option Variable
  | .object members => ofMembers? members
  | .array [name, type] => ofMembers? [("name", name), ("type", type)]
  | .array [name, type, value] => ofMembers? [("name", name), ("type", type), ("value", value)]
  | _ => none

/-- The members of a record as values. Members that a record does not read need not have one. -/
def readMembers? : List (List Symbol × Tree) → Option (List (String × Value))
  | [] => some []
  | (key, tree) :: members =>
    match Json.string? key with
    | none => none
    | some key =>
      if memberNames.contains key then
        match tree.value?, readMembers? members with
        | some value, some rest => some ((key, value) :: rest)
        | _, _ => none
      else readMembers? members

/-- The variable of a text that is a record. -/
def ofText? (text : String) : Option Variable :=
  match Tree.ofText? text with
  | some (.object members) => (readMembers? members).bind ofMembers?
  | some tree => tree.value?.bind ofJson?
  | none => none

end Variable

namespace VariableSet

/-- The record of each variable under its name, in the order of the set. -/
def toJson (s : VariableSet) : Value :=
  .object (s.toList.map fun v => (v.name, v.toJson))

end VariableSet

namespace TemplateError

/-- The message, and the position if there is one. -/
def toJson (e : TemplateError) : Value :=
  .object (("message", .string e.message) ::
    match e.position? with
    | some position => [("position", .number (.int position))]
    | none => [])

end TemplateError

end TypedTemplates
