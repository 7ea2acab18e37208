import TypedTemplates.Text.Blank

/-!
# The pieces of a template

A span is a pair of opening braces and all up to the first closing pair after it. `pieces` reads a text from
the left as single characters and spans, each span taken at the first place where one begins; the sources of the
pieces are the text again (`source_pieces`). A span is a placeholder if its body is a name and a type word with a
bar between them (`field?`).
-/

namespace TypedTemplates.Template

open Text (trim)

/-- The text before the first pair of closing braces, and the text after it. -/
def closing? : List Char → Option (List Char × List Char)
  | '}' :: '}' :: after => some ([], after)
  | c :: rest => (closing? rest).map fun split => (c :: split.1, split.2)
  | [] => none

theorem eq_of_closing? {cs body after : List Char} (h : closing? cs = some (body, after)) :
    cs = body ++ '}' :: '}' :: after := by
  fun_induction closing? cs generalizing body with
  | case1 => simp_all
  | case2 c rest _ ih =>
    obtain ⟨split, hsplit, heq⟩ := Option.map_eq_some_iff.1 h
    simp only [Prod.mk.injEq] at heq
    obtain ⟨rfl, rfl⟩ := heq
    simp [← ih hsplit]
  | case3 => simp at h

theorem length_of_closing? {cs body after : List Char} (h : closing? cs = some (body, after)) :
    cs.length = body.length + after.length + 2 := by
  rw [eq_of_closing? h]
  simp; omega

/-- A piece of a template: a character that stands for itself, or the body of a span. -/
inductive Piece where
  | literal (c : Char)
  | span (body : List Char)
  deriving DecidableEq, Repr

/-- The text of a piece. -/
def Piece.source : Piece → List Char
  | .literal c => [c]
  | .span body => '{' :: '{' :: body ++ ['}', '}']

/-- The text as characters and spans, from the left. -/
def pieces (cs : List Char) : List Piece :=
  match cs with
  | '{' :: '{' :: rest =>
    match _ : closing? rest with
    | some (body, after) => .span body :: pieces after
    | none => .literal '{' :: pieces ('{' :: rest)
  | c :: rest => .literal c :: pieces rest
  | [] => []
termination_by cs.length
decreasing_by
  · rename_i h
    have := length_of_closing? h
    simp; omega
  · simp
  · simp

theorem source_pieces (cs : List Char) : (pieces cs).flatMap Piece.source = cs := by
  fun_induction pieces cs with
  | case1 rest body after h ih => simp [Piece.source, ih, eq_of_closing? h]
  | case2 rest h ih => simp [Piece.source, ih]
  | case3 c rest _ ih => simp [Piece.source, ih]
  | case4 => rfl

/-- The name and the type word of a placeholder, without the blanks around them. -/
structure Field where
  name : List Char
  token : List Char
  deriving DecidableEq, Repr

/-- Whether the text has two opening braces in a row. -/
def hasOpening : List Char → Bool
  | [] => false
  | c :: rest => (c = '{' && rest.head? = some '{') || hasOpening rest

/-- The name and type word of a span's body: the texts before and after its first bar, neither of them blank, with
no pair of opening braces in the body and no closing brace after the bar. -/
def field? (body : List Char) : Option Field :=
  match body.dropWhile (· ≠ '|') with
  | [] => none
  | _ :: token =>
    let name := body.takeWhile (· ≠ '|')
    if hasOpening body || token.contains '}' || (trim name).isEmpty || (trim token).isEmpty then none
    else some ⟨trim name, trim token⟩

end TypedTemplates.Template
