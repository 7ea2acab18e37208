import TypedTemplates.Json.Printer
import TypedTemplates.Json.Reader

/-!
# Reading literals back

A string that is written as a literal is read back whatever its characters are (`readString_literal`,
`string?_symbols`), and so is an integer of 64 bits (`Number.IsWhole.readNumber_text`, `Number.IsWhole.number?_literal`).
A number ends only where something else follows it (`EndsValue`).
-/

namespace TypedTemplates

namespace Decimal

private theorem digit?_digitChar : ∀ d, d < 10 → digit? (digitChar d) = some d := by
  decide

theorem lt_ten_of_mem_digits {n d : Nat} (h : d ∈ digits n) : d < 10 := by
  fun_induction digits n with
  | case1 n hn =>
    rw [List.mem_singleton] at h
    omega
  | case2 n hn ih =>
    rcases List.mem_append.1 h with h | h
    · exact ih h
    · rw [List.mem_singleton] at h
      omega

theorem digits_ne_nil (n : Nat) : digits n ≠ [] := by
  rw [digits]
  split <;> simp

/-- Only zero is written with a zero in front. -/
theorem eq_nil_of_digits_eq_zero_cons {n : Nat} {ds : List Nat} (h : digits n = 0 :: ds) : ds = [] := by
  have hpos : ∀ m, 0 < m → (digits m).head? ≠ some 0 := by
    intro m
    fun_induction digits m with
    | case1 m hm => simp; omega
    | case2 m hm ih =>
      intro _
      rw [List.head?_append, Option.or_of_isSome (List.isSome_head?.2 (digits_ne_nil _))]
      exact ih (by omega)
  by_cases hn : n = 0
  · subst hn
    rw [digits] at h
    simpa using h.symm
  · exact absurd (by rw [h]; rfl) (hpos n (Nat.pos_of_ne_zero hn))

/-- The digits of a number end before a character that is none. -/
theorem scanDigits_text_append (n : Nat) {rest : List Char} (h : ∀ c, rest.head? = some c → digit? c = none) :
    scanDigits (text n ++ rest) = (digits n, rest) := by
  have hrest : scanDigits rest = ([], rest) := by
    cases rest with
    | nil => rfl
    | cons c rest => simp [scanDigits, h c rfl]
  have hscan : ∀ ds : List Nat, (∀ d ∈ ds, d < 10) → scanDigits (ds.map digitChar ++ rest) = (ds, rest) := by
    intro ds hds
    induction ds with
    | nil => exact hrest
    | cons d ds ih =>
      obtain ⟨hd, hds⟩ := List.forall_mem_cons.1 hds
      simp [scanDigits, digit?_digitChar d hd, ih hds]
  exact hscan (digits n) fun d hd => lt_ten_of_mem_digits hd

/-- A number begins with a digit. -/
theorem exists_text_eq_cons (n : Nat) : ∃ d cs, d < 10 ∧ text n = digitChar d :: cs := by
  cases hd : digits n with
  | nil => exact absurd hd (digits_ne_nil n)
  | cons d ds =>
    refine ⟨d, ds.map digitChar, lt_ten_of_mem_digits (hd ▸ List.mem_cons_self), ?_⟩
    rw [text, hd, List.map_cons]

end Decimal

namespace Json

/-! ### Strings -/

/-- The step of a literal by which a character is written. -/
def Symbol.ofChar (c : Char) : Symbol :=
  if c.toNat < 0x20 ∧ c ∉ ['\x08', '\t', '\n', '\x0c', '\r'] then .unit c.toNat else .char c

/-- The steps of the literal that is written for a string. -/
def symbols (s : String) : List Symbol :=
  s.toList.map Symbol.ofChar

private theorem hexNumber?_hexDigits : ∀ n, n < 0x20 →
    Text.hexNumber? ['0', '0', Text.hexDigit (n / 16), Text.hexDigit (n % 16)] = some n := by
  decide

theorem readString_cons_of_plain {c : Char} (rest : List Char) (hquote : c ≠ '"') (hslash : c ≠ '\\')
    (hc : ¬c.toNat < 0x20) :
    readString (c :: rest) = (readString rest).map fun (symbols, rest) => (.char c :: symbols, rest) := by
  rw [readString, if_neg hc]
  · exact hquote
  · simp [hslash]
  · simp [hslash]

theorem readString_cons_escape {e c : Char} (rest : List Char) (he : escape? e = some c) (hu : e ≠ 'u') :
    readString ('\\' :: e :: rest) = (readString rest).map fun (symbols, rest) => (.char c :: symbols, rest) := by
  rw [readString, he]
  · cases readString rest <;> rfl
  · simp [hu]

theorem readString_escaped (c : Char) (rest : List Char) :
    readString (escaped c ++ rest) =
      (readString rest).map fun (symbols, rest) => (Symbol.ofChar c :: symbols, rest) := by
  by_cases hshort : c ∈ ['"', '\\', '\x08', '\x0c', '\n', '\r', '\t']
  · simp only [List.mem_cons, List.not_mem_nil, or_false] at hshort
    rcases hshort with rfl | rfl | rfl | rfl | rfl | rfl | rfl <;>
      exact readString_cons_escape rest rfl (by decide)
  · simp only [List.mem_cons, List.not_mem_nil, or_false, not_or] at hshort
    obtain ⟨h1, h2, h3, h4, h5, h6, h7⟩ := hshort
    by_cases hlow : c.toNat < 0x20
    · have hsymbol : Symbol.ofChar c = .unit c.toNat := by simp [Symbol.ofChar, hlow, h3, h4, h5, h6, h7]
      have hnumber := hexNumber?_hexDigits c.toNat hlow
      simp only [escaped, h1, h2, h3, h4, h5, h6, h7, hlow, if_true, if_false, List.cons_append, List.nil_append]
      rw [readString, hnumber, hsymbol]
      cases readString rest <;> rfl
    · have hsymbol : Symbol.ofChar c = .char c := by simp [Symbol.ofChar, hlow]
      simp only [escaped, h1, h2, h3, h4, h5, h6, h7, hlow, if_false, List.cons_append, List.nil_append]
      rw [readString_cons_of_plain rest h1 h2 hlow, hsymbol]

/-- Every string is read back from its literal, the opening quote of which has been read. -/
theorem readString_literal (s : String) (rest : List Char) :
    readString (s.toList.flatMap escaped ++ '"' :: rest) = some (symbols s, rest) := by
  unfold symbols
  induction s.toList with
  | nil => simp [readString]
  | cons c cs ih => simp [List.flatMap_cons, readString_escaped, ih]

theorem characters?_cons_unit {code : Nat} (rest : List Symbol) (h : code < 0xd800) :
    characters? (.unit code :: rest) = (characters? rest).map (Char.ofNat code :: ·) := by
  rcases rest with _ | ⟨_ | _, rest⟩ <;> simp [characters?, h]

/-- The literal that is written for a string stands for that string. -/
theorem string?_symbols (s : String) : string? (symbols s) = some s := by
  have h : ∀ cs : List Char, characters? (cs.map Symbol.ofChar) = some cs := by
    intro cs
    induction cs with
    | nil => rfl
    | cons c cs ih =>
      rw [List.map_cons, Symbol.ofChar]
      split
      · next hc =>
        rw [characters?_cons_unit _ (by omega), ih, Option.map_some, Char.ofNat_toNat]
      · rw [characters?, ih, Option.map_some]
  rw [string?, symbols, h, Option.map_some, String.ofList_toList]

/-! ### Numbers -/

/-- The characters that can stand after a value in a text: its end, a comma, a closing bracket, a line break. -/
def EndsValue (rest : List Char) : Prop :=
  ∀ c, rest.head? = some c → c ∈ [',', ']', '}', '\n']

theorem endsValue_nil : EndsValue [] := by
  simp [EndsValue]

theorem endsValue_cons {c : Char} {rest : List Char} (h : c ∈ [',', ']', '}', '\n']) : EndsValue (c :: rest) := by
  intro d hd
  rw [List.head?_cons, Option.some.injEq] at hd
  exact hd ▸ h

/-- An integer of 64 bits, signed or not. The negative zero, which is no integer, is written as one may be. -/
def Number.IsWhole : Number → Prop
  | .int n => -(UInt64.size / 2 : Nat) ≤ n ∧ n < UInt64.size
  | .double d => d = -0.0

/-- The literal that is written for an integer, or for the negative zero. -/
def Number.literal : Number → NumberLiteral
  | .int n => ⟨n < 0, Decimal.digits n.natAbs, none, none⟩
  | .double _ => ⟨true, [0], some [0], none⟩

theorem EndsValue.digit?_eq_none {rest : List Char} (h : EndsValue rest) {c : Char} (hc : rest.head? = some c) :
    Decimal.digit? c = none := by
  have hmem := h c hc
  simp only [List.mem_cons, List.not_mem_nil, or_false] at hmem
  rcases hmem with rfl | rfl | rfl | rfl <;> rfl

theorem EndsValue.readFraction_eq {rest : List Char} (h : EndsValue rest) : readFraction rest = some (none, rest) := by
  cases rest with
  | nil => rfl
  | cons c rest =>
    have hne : c ≠ '.' := by
      rintro rfl
      simpa using h '.' rfl
    rw [readFraction]
    simp [hne]

theorem EndsValue.readExponent_eq {rest : List Char} (h : EndsValue rest) : readExponent rest = some (none, rest) := by
  cases rest with
  | nil => rfl
  | cons c rest =>
    have hne : ¬(c = 'e' ∨ c = 'E') := by
      rintro (rfl | rfl) <;> simpa using h _ rfl
    rw [readExponent, if_neg hne]

theorem readDigits_text (n : Nat) {rest : List Char} (h : ∀ c, rest.head? = some c → Decimal.digit? c = none) :
    readDigits (Decimal.text n ++ rest) = some (Decimal.digits n, rest) := by
  rw [readDigits, Decimal.scanDigits_text_append n h]
  cases hd : Decimal.digits n with
  | nil => exact absurd hd (Decimal.digits_ne_nil n)
  | cons d ds => rfl

theorem readWhole_text (n : Nat) {rest : List Char} (h : ∀ c, rest.head? = some c → Decimal.digit? c = none) :
    readWhole (Decimal.text n ++ rest) = some (Decimal.digits n, rest) := by
  rw [readWhole, readDigits_text n h]
  split
  · next heq =>
    simp only [Option.some.injEq, Prod.mk.injEq] at heq
    exact absurd (Decimal.eq_nil_of_digits_eq_zero_cons heq.1) (by simp)
  · rfl

/-- An integer after its sign, if there is one, is read back from its digits. -/
theorem readUnsigned_text (negative : Bool) (n : Nat) {rest : List Char} (h : EndsValue rest) :
    readUnsigned negative (Decimal.text n ++ rest) = some (⟨negative, Decimal.digits n, none, none⟩, rest) := by
  rw [readUnsigned, readWhole_text n fun c hc => h.digit?_eq_none hc]
  simp [h.readFraction_eq, h.readExponent_eq]

private theorem digitChar_ne_minus : ∀ d, d < 10 → Decimal.digitChar d ≠ '-' := by
  decide

private theorem digitChar_mem : ∀ d, d < 10 →
    Decimal.digitChar d ∈ ['-', '0', '1', '2', '3', '4', '5', '6', '7', '8', '9'] := by
  decide

theorem Number.IsWhole.text_double {d : Float} (h : (Number.double d).IsWhole) :
    (Number.double d).text = ['-', '0', '.', '0'] := by
  rw [show d = -0.0 from h]
  decide

/-- A number begins with a digit or with a minus sign. -/
theorem Number.IsWhole.exists_text_eq_cons {n : Number} (h : n.IsWhole) :
    ∃ c cs, c ∈ ['-', '0', '1', '2', '3', '4', '5', '6', '7', '8', '9'] ∧ n.text = c :: cs := by
  cases n with
  | double d => exact ⟨_, _, by simp, h.text_double⟩
  | int n =>
    by_cases hneg : n < 0
    · exact ⟨'-', Decimal.text n.natAbs, by simp, by simp [text, integerText, hneg]⟩
    · obtain ⟨d, cs, hd, hcs⟩ := Decimal.exists_text_eq_cons n.natAbs
      exact ⟨_, cs, digitChar_mem d hd, by simp [text, integerText, hneg, hcs]⟩

theorem Number.IsWhole.readNumber_text {n : Number} (hn : n.IsWhole) {rest : List Char} (h : EndsValue rest) :
    readNumber (n.text ++ rest) = some (n.literal, rest) := by
  cases n with
  | double d =>
    have hzero : Decimal.text 0 = ['0'] := by simp [Decimal.text, Decimal.digits, Decimal.digitChar]
    have hdigits : Decimal.digits 0 = [0] := by simp [Decimal.digits]
    have hpoint : ∀ c, ('.' :: '0' :: rest).head? = some c → Decimal.digit? c = none := by
      simp [Decimal.digit?]
    have hwhole := readWhole_text 0 hpoint
    have hdecimal := readDigits_text 0 fun c hc => h.digit?_eq_none hc
    rw [hzero, hdigits, List.singleton_append] at hwhole hdecimal
    have hfraction : readFraction ('.' :: '0' :: rest) = some (some [0], rest) := by
      rw [readFraction, hdecimal]
      rfl
    rw [hn.text_double]
    show readUnsigned true ('0' :: '.' :: '0' :: rest) = _
    rw [readUnsigned, hwhole]
    simp [hfraction, h.readExponent_eq, literal]
  | int n =>
    by_cases hneg : n < 0
    · simp [text, integerText, hneg, readNumber, readUnsigned_text true n.natAbs h, literal]
    · have hread := readUnsigned_text false n.natAbs h
      obtain ⟨d, cs, hd, hcs⟩ := Decimal.exists_text_eq_cons n.natAbs
      have hsign : Decimal.digitChar d ≠ '-' := digitChar_ne_minus d hd
      simp only [text, integerText, hneg, if_false, List.nil_append, literal, decide_false]
      rw [hcs, List.cons_append] at hread ⊢
      rw [readNumber, hread]
      exact fun _ heq => hsign (List.cons.inj heq).1

/-- The literal that is written for a whole number stands for that number. -/
theorem Number.IsWhole.number?_literal {n : Number} (h : n.IsWhole) : n.literal.number? = some n := by
  cases n with
  | double d =>
    have hscale : Decimal.scale (UInt64.ofNat 0).toFloat (-1) = some 0.0 := by
      rw [Decimal.scale]
      rfl
    have hdouble : Decimal.toDouble? [0] [0] false (Decimal.ofDigits []) = some 0.0 := hscale
    rw [show d = -0.0 from h]
    simp only [literal, NumberLiteral.number?, Option.getD_some, Option.getD_none, hdouble]
    rfl
  | int n =>
    obtain ⟨hlow, hhigh⟩ := h
    simp only [literal, NumberLiteral.number?, Decimal.ofDigits_digits, Option.isNone_none, Bool.true_and]
    by_cases hneg : n < 0
    · have hne : n.natAbs ≠ 0 := by omega
      have hle : n.natAbs ≤ UInt64.size / 2 := by omega
      have habs : -(n.natAbs : Int) = n := by omega
      simp only [hneg, hle, habs, decide_true, Bool.not_true, Bool.false_and, Bool.false_eq_true, if_false,
        Bool.true_and, Bool.and_true, decide_eq_true_eq]
      rw [if_pos hne]
    · have hlt : n.natAbs < UInt64.size := by omega
      have habs : (n.natAbs : Int) = n := by omega
      simp [hneg, hlt, habs]

end Json

end TypedTemplates
