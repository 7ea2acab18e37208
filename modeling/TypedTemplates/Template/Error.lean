import TypedTemplates.Template.VarType

/-!
# Template errors

A text is no template for one of three causes, each with its own message. Only a wrong type has a position.
-/

namespace TypedTemplates

inductive TemplateError where
  /-- The text has not as many opening as closing pairs of braces. -/
  | mismatchedBrackets
  /-- A pair of opening braces does not begin a well-formed placeholder. -/
  | invalidFormat
  /-- The placeholder after `position` characters has a type word that names no type. -/
  | invalidType (found : String) (position : Nat)
  deriving DecidableEq, Repr

namespace TemplateError

def message : TemplateError → String
  | .mismatchedBrackets => "Mismatched \x7b\x7b \x7d\x7d brackets in template"
  | .invalidFormat => "Invalid variable format. Use \x7b\x7bname|type\x7d\x7d"
  | .invalidType found _ => "Invalid type \"" ++ found ++ "\". Valid types: " ++ VarType.tokenList

/-- The number of characters before the placeholder at fault. -/
def position? : TemplateError → Option Nat
  | .invalidType _ position => some position
  | _ => none

end TemplateError

end TypedTemplates
