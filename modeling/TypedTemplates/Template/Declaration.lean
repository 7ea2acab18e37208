import TypedTemplates.Template.Error
import TypedTemplates.Template.Piece
import TypedTemplates.Template.Variable

/-!
# The variables a template declares

`declarations` decides whether a text is a template. The first of three checks that fails gives the error: the
pairs of opening and of closing braces are equally many; if the text has a span at all, every pair of opening
braces in it begins a well-formed placeholder; every type word names a type. `parse` lists the declared variables,
each name once and with the type of its first placeholder, and fills in values known from before.
-/

namespace TypedTemplates.Template

/-- The number of pairs of the character `c`, counted from the left without overlap. -/
def countPairs (c : Char) : List Char → Nat
  | a :: b :: rest => if a = c ∧ b = c then countPairs c rest + 1 else countPairs c (b :: rest)
  | _ => 0

/-- The spans among the pieces, each as a placeholder and the number of characters before it, or nothing if one of
them is not well formed. -/
def fieldsFrom? (offset : Nat) : List Piece → Option (List (Nat × Field))
  | [] => some []
  | .literal _ :: ps => fieldsFrom? (offset + 1) ps
  | .span body :: ps =>
    match field? body, fieldsFrom? (offset + (Piece.span body).source.length) ps with
    | some field, some fields => some ((offset, field) :: fields)
    | _, _ => none

/-- Whether a text that follows two opening braces makes them a placeholder. -/
def continuesPlaceholder (rest : List Char) : Bool :=
  match closing? rest with
  | some (body, _) => (field? body).isSome
  | none => false

/-- Whether two opening braces stand somewhere in the text, overlapping others or not, that begin no placeholder. -/
def hasStrayOpening : List Char → Bool
  | '{' :: '{' :: rest => !continuesPlaceholder rest || hasStrayOpening ('{' :: rest)
  | _ :: rest => hasStrayOpening rest
  | [] => false

/-- A name and the type that a placeholder gives it. -/
structure Declaration where
  name : String
  type : VarType
  deriving DecidableEq, Repr

/-- The declarations of placeholders, up to the first type word that names no type. -/
def typed : List (Nat × Field) → Except TemplateError (List Declaration)
  | [] => .ok []
  | (offset, field) :: fields =>
    match VarType.ofToken? (String.ofList field.token) with
    | none => .error (.invalidType (String.ofList field.token) offset)
    | some type => (typed fields).map (⟨String.ofList field.name, type⟩ :: ·)

/-- The declaration of each placeholder, in order, or why the text is no template. -/
def declarationsOf (cs : List Char) : Except TemplateError (List Declaration) :=
  if countPairs '{' cs ≠ countPairs '}' cs then .error .mismatchedBrackets
  else
    match fieldsFrom? 0 (pieces cs) with
    | none => .error .invalidFormat
    | some fields =>
      if !fields.isEmpty && hasStrayOpening cs then .error .invalidFormat
      else typed fields

def declarations (template : String) : Except TemplateError (List Declaration) :=
  declarationsOf template.toList

/-- The declared variables, each name once, with the values that `prior` knows and empty ones else. -/
def seeded (prior : String → Option String) (ds : List Declaration) : VariableSet :=
  VariableSet.ofList (ds.map fun d => ⟨d.name, d.type, (prior d.name).getD ""⟩)

/-- The variables of a template, with the values that `prior` knows, or why the text is no template. -/
def parse (template : String) (prior : String → Option String) : Except TemplateError VariableSet :=
  (declarations template).map (seeded prior)

end TypedTemplates.Template
