import TypedTemplates.Template.Piece
import TypedTemplates.Template.Variable

/-!
# Rendering

Every placeholder whose name is in the set gives way to the value of that name. All else stays as it is: literal
text, spans that are no placeholders, and placeholders whose name is not in the set. Values are not searched for
further placeholders.
-/

namespace TypedTemplates.Template

/-- The text that a piece contributes. -/
def Piece.fill (vars : VariableSet) : Piece → List Char
  | .literal c => [c]
  | .span body =>
    match field? body with
    | none => (Piece.span body).source
    | some field =>
      match vars.value? (String.ofList field.name) with
      | some value => value.toList
      | none => (Piece.span body).source

/-- The text with the values of the variables in place of their placeholders. -/
def fillIn (cs : List Char) (vars : VariableSet) : List Char :=
  (pieces cs).flatMap (Piece.fill vars)

/-- The template with its values filled in, or nothing while it has an error. -/
def render (template : String) (vars : VariableSet) (hasError : Bool) : String :=
  if hasError then "" else String.ofList (fillIn template.toList vars)

end TypedTemplates.Template
