import TypedTemplates.Proofs.Template.VariableSet
import TypedTemplates.Template.Declaration

/-!
# Declared variables

The variables of a template are its declarations in the order in which their names first occur
(`signature_seeded`), and their values are the ones known from before (`value?_seeded`). `declared?` is what
a template declares without the values.
-/

namespace TypedTemplates

namespace VariableSet

/-- The names and types of the variables, in order. -/
def signature (s : VariableSet) : List Template.Declaration :=
  s.toList.map fun v => ⟨v.name, v.type⟩

theorem map_name_signature (s : VariableSet) : s.signature.map (·.name) = s.names := by
  rw [signature, List.map_map]
  rfl

@[simp] theorem signature_mapValue (s : VariableSet) (name value : String) :
    (s.mapValue name value).signature = s.signature := by
  simp only [signature, mapValue, List.map_map]
  apply List.map_congr_left
  intro v _
  simp only [Function.comp_apply]
  split <;> rfl

theorem toList_eq_map_signature (s : VariableSet) :
    s.toList = s.signature.map fun d => ⟨d.name, d.type, (s.value? d.name).getD ""⟩ := by
  rw [signature, List.map_map]
  refine (List.map_id _).symm.trans (List.map_congr_left fun v hv => ?_)
  simp [value?, get?_of_mem hv]

/-- A set is determined by its names and types and by the values of these names. -/
theorem eq_of_signature_eq {s t : VariableSet} (h : s.signature = t.signature)
    (hvalue : ∀ name ∈ s.names, s.value? name = t.value? name) : s = t := by
  refine eq_of_toList_eq ?_
  rw [s.toList_eq_map_signature, t.toList_eq_map_signature, h]
  refine List.map_congr_left fun d hd => ?_
  rw [hvalue d.name]
  rw [← map_name_signature, h]
  exact List.mem_map_of_mem hd

end VariableSet

namespace Template

/-- The declarations without those whose name came before. -/
def firsts (ds : List Declaration) : List Declaration :=
  ds.eraseDupsBy fun d e => d.name == e.name

theorem map_name_firsts (ds : List Declaration) : (firsts ds).map (·.name) = (ds.map (·.name)).eraseDups :=
  (eraseDupsBy_map (·.name) (· == ·) ds).symm

theorem mem_map_name_firsts {name : String} {ds : List Declaration} :
    name ∈ (firsts ds).map (·.name) ↔ name ∈ ds.map (·.name) := by
  rw [map_name_firsts, List.mem_eraseDups]

theorem find?_firsts (name : String) (ds : List Declaration) :
    (firsts ds).find? (fun d => d.name == name) = ds.find? fun d => d.name == name :=
  find?_eraseDupsBy (·.name) name ds

theorem toList_seeded (prior : String → Option String) (ds : List Declaration) :
    (seeded prior ds).toList = (firsts ds).map fun d => ⟨d.name, d.type, (prior d.name).getD ""⟩ := by
  rw [seeded, VariableSet.toList_ofList, eraseDupsBy_map]
  rfl

theorem value_eq_of_mem_seeded {prior : String → Option String} {ds : List Declaration} {v : Variable}
    (hv : v ∈ (seeded prior ds).toList) : v.value = (prior v.name).getD "" := by
  rw [toList_seeded] at hv
  obtain ⟨d, -, rfl⟩ := List.mem_map.1 hv
  rfl

/-- The variables of a template are its declarations, whatever values are known. -/
theorem signature_seeded (prior : String → Option String) (ds : List Declaration) :
    (seeded prior ds).signature = firsts ds := by
  rw [VariableSet.signature, toList_seeded, List.map_map]
  exact List.map_id _

theorem names_seeded (prior : String → Option String) (ds : List Declaration) :
    (seeded prior ds).names = (ds.map (·.name)).eraseDups := by
  rw [← VariableSet.map_name_signature, signature_seeded, map_name_firsts]

/-- A declared variable has the type of the first declaration of its name, and the value known for it. -/
theorem get?_seeded (prior : String → Option String) (ds : List Declaration) (name : String) :
    (seeded prior ds).get? name =
      (ds.find? fun d => d.name == name).map fun d => ⟨d.name, d.type, (prior d.name).getD ""⟩ := by
  rw [VariableSet.get?, toList_seeded, List.find?_map, ← find?_firsts]
  rfl

theorem value?_seeded (prior : String → Option String) (ds : List Declaration) (name : String) :
    (seeded prior ds).value? name = if name ∈ ds.map (·.name) then some ((prior name).getD "") else none := by
  rw [VariableSet.value?, get?_seeded, Option.map_map]
  cases hf : ds.find? fun d => d.name == name with
  | none =>
    rw [List.find?_eq_none] at hf
    have hn : name ∉ ds.map (·.name) := by
      intro hm
      obtain ⟨d, hd, rfl⟩ := List.mem_map.1 hm
      exact hf d hd (by simp)
    rw [if_neg hn, Option.map_none]
  | some d =>
    have hn : d.name = name := by simpa using List.find?_some hf
    have hm : name ∈ ds.map (·.name) := hn ▸ List.mem_map_of_mem (List.mem_of_find?_eq_some hf)
    rw [if_pos hm, Option.map_some, ← hn]
    rfl

/-- A set is what its own values give to the declarations that its names and types come from. -/
theorem seeded_value?_eq_self {vs : VariableSet} {ds : List Declaration} (h : vs.signature = firsts ds) :
    seeded vs.value? ds = vs := by
  apply VariableSet.eq_of_toList_eq
  rw [toList_seeded, ← h, ← VariableSet.toList_eq_map_signature]

/-- The names and types that a template declares, each name once, or nothing if the text is no template. -/
def declared? (template : String) : Option (List Declaration) :=
  (declarations template).toOption.map firsts

theorem declared?_eq_some_iff {template : String} {ds : List Declaration} :
    declared? template = some ds ↔ ∃ all, declarations template = .ok all ∧ firsts all = ds := by
  unfold declared?
  cases declarations template <;> simp [Except.toOption]

theorem declared?_eq_none_iff {template : String} :
    declared? template = none ↔ ∃ error, declarations template = .error error := by
  unfold declared?
  cases declarations template <;> simp [Except.toOption]

theorem parse_eq_ok_iff {template : String} {prior : String → Option String} {vs : VariableSet} :
    parse template prior = .ok vs ↔ ∃ ds, declarations template = .ok ds ∧ seeded prior ds = vs := by
  unfold parse
  cases declarations template <;> simp [Except.map]

theorem parse_eq_error_iff {template : String} {prior : String → Option String} {error : TemplateError} :
    parse template prior = .error error ↔ declarations template = .error error := by
  unfold parse
  cases declarations template <;> simp [Except.map]

/-- Parsing again with the values of the result gives the result again. -/
theorem parse_value? {template : String} {prior : String → Option String} {vs : VariableSet}
    (h : parse template prior = .ok vs) : parse template vs.value? = .ok vs := by
  obtain ⟨ds, hd, rfl⟩ := parse_eq_ok_iff.1 h
  exact parse_eq_ok_iff.2 ⟨ds, hd, seeded_value?_eq_self (signature_seeded prior ds)⟩

/-- What a template declares does not depend on the values known before. -/
theorem declared?_of_parse {template : String} {prior : String → Option String} {vs : VariableSet}
    (h : parse template prior = .ok vs) : declared? template = some vs.signature := by
  obtain ⟨ds, hds, rfl⟩ := parse_eq_ok_iff.1 h
  exact declared?_eq_some_iff.2 ⟨ds, hds, (signature_seeded prior ds).symm⟩

theorem forall_declared?_iff {template name : String} :
    (∀ ds, declared? template = some ds → name ∈ ds.map (·.name)) ↔
      ∀ prior vs, parse template prior = .ok vs → name ∈ vs.names := by
  constructor
  · intro h prior vs hp
    rw [← VariableSet.map_name_signature]
    exact h _ (declared?_of_parse hp)
  · intro h ds hd
    obtain ⟨all, hall, rfl⟩ := declared?_eq_some_iff.1 hd
    have hn := h (fun _ => none) _ (parse_eq_ok_iff.2 ⟨all, hall, rfl⟩)
    rwa [← VariableSet.map_name_signature, signature_seeded] at hn

end Template

end TypedTemplates
