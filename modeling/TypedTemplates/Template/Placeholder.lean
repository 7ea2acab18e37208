import TypedTemplates.Template.Piece

/-!
# Placeholders and their ranges

`placeholders` lists the spans of a text that are well-formed placeholders, each with its range in bytes of the
UTF-8 form of the text. It does not ask whether the text as a whole is a template.
-/

namespace TypedTemplates.Template

/-- A well-formed placeholder and its range of bytes. -/
structure Placeholder where
  field : Field
  start : Nat
  stop : Nat
  deriving DecidableEq, Repr

/-- The number of bytes of a text in UTF-8. -/
def byteLength : List Char → Nat
  | [] => 0
  | c :: cs => c.utf8Size + byteLength cs

@[simp] theorem byteLength_append (cs ds : List Char) :
    byteLength (cs ++ ds) = byteLength cs + byteLength ds := by
  induction cs with
  | nil => simp [byteLength]
  | cons c cs ih => simp [byteLength, ih, Nat.add_assoc]

/-- The placeholders among the pieces of a text that begins `start` bytes into the whole. -/
def placeholdersFrom (start : Nat) : List Piece → List Placeholder
  | [] => []
  | p :: ps =>
    let stop := start + byteLength p.source
    match p with
    | .literal _ => placeholdersFrom stop ps
    | .span body =>
      match field? body with
      | some field => ⟨field, start, stop⟩ :: placeholdersFrom stop ps
      | none => placeholdersFrom stop ps

/-- The well-formed placeholders of a text, from the left. -/
def placeholders (template : String) : List Placeholder :=
  placeholdersFrom 0 (pieces template.toList)

end TypedTemplates.Template
