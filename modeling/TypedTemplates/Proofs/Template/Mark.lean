import TypedTemplates.Proofs.Template.Pairs
import Mathlib.Data.List.TakeWhile

/-!
# Marks

A mark is a placeholder as it is written, cut at its first bar. The bodies that `field?` accepts are those
of the well-formed marks (`Mark.WellFormed.field?_body`, `Mark.of_field?_eq_some`), and such a body has one
mark (`Mark.ofBody_body`).
-/

namespace TypedTemplates.Template

open Text (trim)

/-- A placeholder as it is written: the texts before and after its first bar. -/
structure Mark where
  name : List Char
  token : List Char
  deriving DecidableEq, Repr

namespace Mark

/-- What stands between the braces. -/
def body (m : Mark) : List Char :=
  m.name ++ '|' :: m.token

def source (m : Mark) : List Char :=
  (Piece.span m.body).source

/-- The name and the type word without the blanks around them. -/
def field (m : Mark) : Field :=
  ⟨trim m.name, trim m.token⟩

/-- The name of the variable that the placeholder stands for. -/
def varName (m : Mark) : String :=
  String.ofList (trim m.name)

def typeWord (m : Mark) : String :=
  String.ofList (trim m.token)

/-- The body cut at its first bar. -/
def ofBody (body : List Char) : Mark :=
  ⟨body.takeWhile (· ≠ '|'), (body.dropWhile (· ≠ '|')).tail⟩

/-- The body of the mark is that of a well-formed placeholder, and cut at its first bar. -/
structure WellFormed (m : Mark) : Prop where
  no_bar : '|' ∉ m.name
  name_open : ¬ HasPair '{' m.name
  name_ne_nil : trim m.name ≠ []
  token_open : ¬ HasPair '{' m.token
  token_close : '}' ∉ m.token
  token_ne_nil : trim m.token ≠ []

theorem body_open {m : Mark} (hn : ¬ HasPair '{' m.name) (ht : ¬ HasPair '{' m.token) :
    ¬ HasPair '{' m.body := by
  simp [body, hasPair_append, hasPair_cons, hn, ht]

theorem body_close {m : Mark} (hn : ¬ HasPair '}' m.name) (ht : '}' ∉ m.token) : ¬ HasPair '}' m.body := by
  have := not_hasPair_of_not_mem ht
  simp [body, hasPair_append, hasPair_cons, hn, this]

/-- No pair of opening braces reaches from the body into the closing braces. -/
theorem body_append_close_open {m : Mark} (h : m.WellFormed) : ¬ HasPair '{' (m.body ++ ['}', '}']) := by
  simp [hasPair_append, hasPair_cons, body_open h.name_open h.token_open]

theorem getLast?_body {m : Mark} (ht : '}' ∉ m.token) : m.body.getLast? ≠ some '}' := by
  rw [body, List.getLast?_append, List.getLast?_cons]
  cases h : m.token.getLast? with
  | none => simp
  | some c =>
    have := List.mem_of_getLast? h
    simp only [Option.getD_some, Option.some_or, ne_eq, Option.some.injEq]
    rintro rfl
    exact ht this

theorem takeWhile_body {m : Mark} (h : '|' ∉ m.name) : m.body.takeWhile (· ≠ '|') = m.name := by
  rw [body, List.takeWhile_append_of_pos]
  · simp
  · intro c hc
    simpa using fun he : c = '|' => h (he ▸ hc)

theorem dropWhile_body {m : Mark} (h : '|' ∉ m.name) : m.body.dropWhile (· ≠ '|') = '|' :: m.token := by
  rw [body, List.dropWhile_append_of_pos]
  · simp
  · intro c hc
    simpa using fun he : c = '|' => h (he ▸ hc)

theorem ofBody_body {m : Mark} (h : '|' ∉ m.name) : ofBody m.body = m := by
  rw [ofBody, takeWhile_body h, dropWhile_body h]
  rfl

theorem WellFormed.field?_body {m : Mark} (h : m.WellFormed) : field? m.body = some m.field := by
  have ho : hasOpening m.body = false := by
    rw [Bool.eq_false_iff, ne_eq, hasOpening_eq_true_iff]
    exact body_open h.name_open h.token_open
  simp only [field?, dropWhile_body h.no_bar, takeWhile_body h.no_bar, ho]
  simp [h.token_close, h.name_ne_nil, h.token_ne_nil, field]

theorem body_ofBody {body token : List Char} {c : Char} (h : body.dropWhile (· ≠ '|') = c :: token) :
    (ofBody body).body = body := by
  have hc : c = '|' := by
    have := List.head_dropWhile_not (· ≠ '|') (l := body) (by rw [h]; exact List.cons_ne_nil c token)
    simpa only [h, List.head_cons, decide_eq_false_iff_not, not_not] using this
  subst hc
  conv => rhs; rw [← List.takeWhile_append_dropWhile (p := (· ≠ '|')) (l := body), h]
  rw [Mark.body, ofBody, h, List.tail_cons]

/-- The body of a placeholder is that of its mark. -/
theorem of_field?_eq_some {body : List Char} {field : Field} (h : field? body = some field) :
    (ofBody body).WellFormed ∧ (ofBody body).body = body ∧ (ofBody body).field = field := by
  unfold field? at h
  split at h
  · simp at h
  · next c token hd =>
    have hb := body_ofBody hd
    have ht : (ofBody body).token = token := by rw [ofBody, hd, List.tail_cons]
    have hn : (ofBody body).name = body.takeWhile (· ≠ '|') := rfl
    simp only [Option.ite_none_left_eq_some, Bool.or_eq_true, not_or, hasOpening_eq_true_iff,
      List.isEmpty_iff, List.contains_iff_mem, Option.some.injEq] at h
    obtain ⟨⟨⟨⟨ho, hcl⟩, hne⟩, hte⟩, rfl⟩ := h
    rw [← hb, Mark.body, hasPair_append, hasPair_cons, not_or, not_or, not_or] at ho
    refine ⟨⟨?_, ho.1, by rwa [hn], ho.2.1.2, by rwa [ht], by rwa [ht]⟩, hb, by rw [Mark.field, ht, hn]⟩
    intro hm
    simpa using List.mem_takeWhile_imp hm

end Mark

end TypedTemplates.Template
