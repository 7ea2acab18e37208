import TypedTemplates.Text.Blank

/-!
# Assignments on the command line

A value for a variable is given as the name, an equals sign and the value. The name ends at the first equals sign
and loses the blanks around it; the value is taken as it is.
-/

namespace TypedTemplates

/-- A name and the value it is to have. -/
structure Assignment where
  name : String
  value : String
  deriving DecidableEq, Repr

namespace Assignment

/-- The assignment of an argument, if it has an equals sign with more than blanks before it. -/
def ofArgument? (argument : String) : Option Assignment :=
  let cs := argument.toList
  match cs.dropWhile (· ≠ '=') with
  | [] => none
  | _ :: value =>
    let name := Text.trim (cs.takeWhile (· ≠ '='))
    if name.isEmpty then none else some ⟨String.ofList name, String.ofList value⟩

/-- The complaint about an argument that is no assignment. -/
def refusal (argument : String) : String :=
  "expected NAME=VALUE, got '" ++ argument ++ "'"

end Assignment

end TypedTemplates
