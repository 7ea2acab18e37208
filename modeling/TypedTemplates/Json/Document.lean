import TypedTemplates.Json.Reader
import TypedTemplates.Json.Value

/-!
# JSON documents

A document is a text that is a JSON value, all of whose literals have values and whose brackets are not nested too
deep. It is read with the members of its objects in order, the last of several with one name.
-/

namespace TypedTemplates.Json

/-- How many arrays and objects may stand around a part of a document. -/
def maxDepth : Nat := 127

/-- The value of a document. -/
def Value.ofText? (text : String) : Option Value :=
  match Tree.ofText? text with
  | some tree => if tree.depth ≤ maxDepth then tree.value?.map Value.sorted else none
  | none => none

end TypedTemplates.Json
