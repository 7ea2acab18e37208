/-!
# Types of template variables

A variable has one of five types. The type says what kind of value is meant; it does not restrict the value.
-/

namespace TypedTemplates

inductive VarType where
  | text
  | number
  | phone
  | email
  | url
  deriving DecidableEq, Repr

namespace VarType

/-- All types, in the order in which they are listed to the user. -/
def all : List VarType :=
  [.text, .number, .phone, .email, .url]

/-- The word that stands for the type in a placeholder and in a record. -/
def token : VarType → String
  | .text => "text"
  | .number => "number"
  | .phone => "phone"
  | .email => "email"
  | .url => "url"

/-- The type named by a word, in exactly this spelling. -/
def ofToken? (word : String) : Option VarType :=
  all.find? fun t => t.token == word

/-- The place of the type in `all`. -/
def index : VarType → Nat
  | .text => 0
  | .number => 1
  | .phone => 2
  | .email => 3
  | .url => 4

/-- All type words, for an error message. -/
def tokenList : String :=
  ", ".intercalate (all.map token)

/-- The complaint about a word that names no type. -/
def unknownMessage (word : String) : String :=
  "unknown variable type: " ++ word

theorem token_injective {s t : VarType} (h : s.token = t.token) : s = t := by
  cases s <;> cases t <;> first | rfl | exact absurd h (by decide)

@[simp] theorem ofToken?_token (t : VarType) : ofToken? t.token = some t := by
  cases t <;> decide

theorem ofToken?_eq_some_iff {word : String} {t : VarType} : ofToken? word = some t ↔ word = t.token := by
  constructor
  · intro h
    have := List.find?_some h
    simp only [beq_iff_eq] at this
    exact this.symm
  · rintro rfl
    exact ofToken?_token t

end VarType

end TypedTemplates
