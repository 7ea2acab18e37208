import TypedTemplates.Proofs.Template.Mark
import TypedTemplates.Template.Placeholder
import TypedTemplates.Template.Render

/-!
# Layouts

A layout is a text cut into its placeholders and the literal texts between them. Every text has one
(`Layout.of`, with `source_of`), in which malformed spans are literal text; its marks are the placeholders
of the text at their places (`placeholders_of`), and to fill in a template is to fill in its layout
(`fillIn_eq`). A layout whose literals have no opening braces before or across a mark is the layout of its
own text (`Layout.Separated.of_source`), so a text has at most one of that kind.
-/

namespace TypedTemplates.Template

/-- A text as literals with placeholders between them. -/
inductive Layout where
  | last (literal : List Char)
  | cons (literal : List Char) (mark : Mark) (rest : Layout)
  deriving DecidableEq, Repr

namespace Layout

/-- The placeholders, from the left. -/
def marks : Layout → List Mark
  | last _ => []
  | cons _ m rest => m :: rest.marks

/-- The texts before, between and after the placeholders. -/
def literals : Layout → List (List Char)
  | last literal => [literal]
  | cons literal _ rest => literal :: rest.literals

/-- The literals with a text in place of each placeholder. -/
def fill (f : Mark → List Char) : Layout → List Char
  | last literal => literal
  | cons literal m rest => literal ++ f m ++ rest.fill f

/-- The text that is laid out. -/
def source (l : Layout) : List Char :=
  l.fill Mark.source

/-- The layout with a text before its first literal. -/
def prepend (cs : List Char) : Layout → Layout
  | last literal => last (cs ++ literal)
  | cons literal m rest => cons (cs ++ literal) m rest

/-- The layout of a text that is read as pieces. A span that is no placeholder is literal text. -/
def ofPieces : List Piece → Layout
  | [] => last []
  | .literal c :: ps => (ofPieces ps).prepend [c]
  | .span body :: ps =>
    match field? body with
    | some _ => cons [] (Mark.ofBody body) (ofPieces ps)
    | none => (ofPieces ps).prepend (Piece.span body).source

/-- The layout of a text. -/
def of (cs : List Char) : Layout :=
  ofPieces (pieces cs)

/-- The pieces that a layout consists of if no literal holds a span. -/
def toPieces : Layout → List Piece
  | last literal => literal.map .literal
  | cons literal m rest => literal.map .literal ++ .span m.body :: rest.toPieces

/-- The placeholders with their ranges, of a layout that begins `start` bytes into the whole. -/
def placeholdersFrom (start : Nat) : Layout → List Placeholder
  | last _ => []
  | cons literal m rest =>
    let first := start + byteLength literal
    let stop := first + byteLength m.source
    ⟨m.field, first, stop⟩ :: rest.placeholdersFrom stop

/-- The placeholders with the number of characters before each, of a layout with `offset` characters before
it. -/
def fieldsFrom (offset : Nat) : Layout → List (Nat × Field)
  | last _ => []
  | cons literal m rest =>
    let first := offset + literal.length
    (first, m.field) :: rest.fieldsFrom (first + m.source.length)

/-! ### Layouts of texts -/

@[simp] theorem marks_prepend (cs : List Char) (l : Layout) : (l.prepend cs).marks = l.marks := by
  cases l <;> rfl

@[simp] theorem fill_prepend (f : Mark → List Char) (cs : List Char) (l : Layout) :
    (l.prepend cs).fill f = cs ++ l.fill f := by
  cases l <;> simp [prepend, fill]

@[simp] theorem source_last (literal : List Char) : (last literal).source = literal := rfl

@[simp] theorem source_cons (literal : List Char) (m : Mark) (rest : Layout) :
    (cons literal m rest).source = literal ++ m.source ++ rest.source := rfl

theorem prepend_prepend (cs ds : List Char) (l : Layout) :
    (l.prepend ds).prepend cs = l.prepend (cs ++ ds) := by
  cases l <;> simp [prepend]

theorem placeholdersFrom_prepend (start : Nat) (cs : List Char) (l : Layout) :
    (l.prepend cs).placeholdersFrom start = l.placeholdersFrom (start + byteLength cs) := by
  cases l <;> simp [prepend, placeholdersFrom, Nat.add_assoc]

theorem fieldsFrom_prepend (offset : Nat) (cs : List Char) (l : Layout) :
    (l.prepend cs).fieldsFrom offset = l.fieldsFrom (offset + cs.length) := by
  cases l <;> simp [prepend, fieldsFrom, Nat.add_assoc]

/-- Filling in the pieces one by one fills in their layout. -/
theorem fill_ofPieces (f : Mark → List Char) (g : Piece → List Char) (ps : List Piece)
    (hliteral : ∀ c, g (.literal c) = [c])
    (hnone : ∀ body, field? body = none → g (.span body) = (Piece.span body).source)
    (hsome : ∀ body field, field? body = some field → g (.span body) = f (Mark.ofBody body)) :
    (ofPieces ps).fill f = ps.flatMap g := by
  induction ps with
  | nil => rfl
  | cons p ps ih =>
    cases p with
    | literal c => simp [ofPieces, hliteral, ih]
    | span body =>
      cases h : field? body with
      | none => simp [ofPieces, h, hnone body h, ih]
      | some field => simp [ofPieces, h, hsome body field h, fill, ih]

theorem source_of (cs : List Char) : (of cs).source = cs := by
  have h : (of cs).source = (pieces cs).flatMap Piece.source := by
    refine fill_ofPieces _ _ _ (fun _ => rfl) (fun _ _ => rfl) fun body field hf => ?_
    rw [Mark.source, (Mark.of_field?_eq_some hf).2.1]
  rw [h, source_pieces]

theorem placeholdersFrom_ofPieces (start : Nat) (ps : List Piece) :
    (ofPieces ps).placeholdersFrom start = Template.placeholdersFrom start ps := by
  induction ps generalizing start with
  | nil => rfl
  | cons p ps ih =>
    cases p with
    | literal c => simp [ofPieces, placeholdersFrom_prepend, Template.placeholdersFrom, ih, Piece.source]
    | span body =>
      cases h : field? body with
      | none => simp [ofPieces, h, placeholdersFrom_prepend, Template.placeholdersFrom, ih]
      | some field =>
        obtain ⟨-, hb, hf⟩ := Mark.of_field?_eq_some h
        simp [ofPieces, h, placeholdersFrom, Template.placeholdersFrom, ih, hf, Mark.source, hb, byteLength]

/-- The marks of a text's layout stand where the placeholders of the text are. -/
theorem placeholders_of (template : String) :
    (of template.toList).placeholdersFrom 0 = placeholders template :=
  placeholdersFrom_ofPieces 0 (pieces template.toList)

theorem wellFormed_of_mem_marks_ofPieces {ps : List Piece} {m : Mark} (h : m ∈ (ofPieces ps).marks) :
    m.WellFormed := by
  induction ps with
  | nil => simp [ofPieces, marks] at h
  | cons p ps ih =>
    cases p with
    | literal c => exact ih (by simpa [ofPieces] using h)
    | span body =>
      cases hf : field? body with
      | none => exact ih (by simpa [ofPieces, hf] using h)
      | some field =>
        simp only [ofPieces, hf, marks, List.mem_cons] at h
        rcases h with rfl | h
        · exact (Mark.of_field?_eq_some hf).1
        · exact ih h

/-! ### Layouts that are read back -/

/-- No literal has two opening braces in a row, nor one right before a placeholder, and every placeholder
ends at its own closing braces. -/
def Separated : Layout → Prop
  | last literal => ¬ HasPair '{' literal
  | cons literal m rest =>
    ¬ HasPair '{' literal ∧ literal.getLast? ≠ some '{' ∧ m.WellFormed ∧ ¬ HasPair '}' m.name ∧ rest.Separated

theorem pieces_cons_of_not_pair {a : Char} {cs : List Char} (h : a = '{' → cs.head? ≠ some '{') :
    pieces (a :: cs) = .literal a :: pieces cs := by
  rw [pieces]
  rintro rest rfl rfl
  exact h rfl rfl

theorem pieces_append {literal : List Char} (ys : List Char) (hx : ¬ HasPair '{' literal)
    (h : literal.getLast? = some '{' → ys.head? ≠ some '{') :
    pieces (literal ++ ys) = literal.map .literal ++ pieces ys := by
  induction literal with
  | nil => rfl
  | cons a xs ih =>
    rw [hasPair_cons, not_or] at hx
    rw [List.cons_append, pieces_cons_of_not_pair, ih hx.2]
    · rfl
    · intro hl
      exact h (by cases xs <;> simp_all)
    · rintro rfl
      cases xs <;> simp_all

theorem pieces_source_append {m : Mark} (ys : List Char) (hm : m.WellFormed) (hc : ¬ HasPair '}' m.name) :
    pieces (m.source ++ ys) = .span m.body :: pieces ys := by
  have hs : m.source ++ ys = '{' :: '{' :: (m.body ++ '}' :: '}' :: ys) := by
    simp [Mark.source, Piece.source]
  have h := closing?_append ys (Mark.body_close hc hm.token_close) (Mark.getLast?_body hm.token_close)
  rw [hs, pieces]
  split
  · simp_all
  · simp_all

/-- In a separated layout the literals hold no spans. -/
theorem Separated.pieces_source {l : Layout} (h : l.Separated) : pieces l.source = l.toPieces := by
  induction l with
  | last literal =>
    have := pieces_append [] h (by simp)
    simpa [toPieces, pieces] using this
  | cons literal m rest ih =>
    obtain ⟨ho, hl, hm, hc, hr⟩ := h
    rw [source_cons, List.append_assoc, pieces_append _ ho (fun h => absurd h hl), pieces_source_append _ hm hc,
      ih hr, toPieces]

theorem ofPieces_literals (literal : List Char) (ps : List Piece) :
    ofPieces (literal.map .literal ++ ps) = (ofPieces ps).prepend literal := by
  induction literal with
  | nil => cases h : ofPieces ps <;> simp [h, prepend]
  | cons c literal ih => simp [ofPieces, ih, prepend_prepend]

/-- A separated layout is the layout of its text. -/
theorem Separated.of_source {l : Layout} (h : l.Separated) : of l.source = l := by
  rw [of, h.pieces_source]
  induction l with
  | last literal =>
    have := ofPieces_literals literal []
    simpa [toPieces, ofPieces, prepend] using this
  | cons literal m rest ih =>
    obtain ⟨-, -, hm, -, hr⟩ := h
    simp [toPieces, ofPieces_literals, ofPieces, hm.field?_body, Mark.ofBody_body hm.no_bar, ih hr, prepend]

end Layout

/-! ### Filling in a template -/

/-- What stands in the output for a placeholder: the value of its name, or the placeholder as it is written.
-/
def Mark.fill (vars : VariableSet) (m : Mark) : List Char :=
  match vars.value? m.varName with
  | some value => value.toList
  | none => m.source

theorem fillIn_eq (cs : List Char) (vars : VariableSet) :
    fillIn cs vars = (Layout.of cs).fill (Mark.fill vars) := by
  refine (Layout.fill_ofPieces _ _ _ (fun _ => rfl) (fun body h => ?_) fun body field h => ?_).symm
  · simp [Piece.fill, h]
  · obtain ⟨-, hb, hf⟩ := Mark.of_field?_eq_some h
    have hn : String.ofList field.name = (Mark.ofBody body).varName := by rw [← hf]; rfl
    cases hv : vars.value? (Mark.ofBody body).varName <;>
      simp [Piece.fill, h, Mark.fill, hn, hv, Mark.source, hb]

end TypedTemplates.Template
