import TypedTemplates.Proofs.Disk.Agreeing
import TypedTemplates.Proofs.Engine.Agreement
import TypedTemplates.Store.JsonFile

/-!
# Engines over stores that run parallel

A relation of stores is parallel if related stores answer the same, and a save comes to the same on both and leaves them
related (`VariableStore.Parallel`). Engines that can be told apart by related stores only (`Engine.Paired`) stay so with
every edit. One store on disks that agree but for a file is such a case (`StoreOnDisk.parallel`), and so is looking
at it without writing.
-/

namespace TypedTemplates

open VariableStore (get? save)

variable {σ τ : Type}

/-- Related stores answer the same, and saves of them come to the same and leave them related. -/
structure VariableStore.Parallel [VariableStore σ] [VariableStore τ] (R : σ → τ → Prop) : Prop where
  get?_eq : ∀ {s s'}, R s s' → get? s' = get? s
  result_save_eq : ∀ {s s'}, R s s' → ∀ vs, (save s' vs).1 = (save s vs).1
  save : ∀ {s s'}, R s s' → ∀ vs, R (save s vs).2 (save s' vs).2

namespace Engine

/-- The engines can be told apart by their stores only, and these are related. -/
structure Paired (R : σ → τ → Prop) (e : Engine σ) (e' : Engine τ) : Prop where
  alike : e.Alike e'
  store : R e.store e'.store

section Edits

open Template (declarations)

variable [VariableStore σ] [VariableStore τ] {R : σ → τ → Prop} {e : Engine σ} {e' : Engine τ}

theorem Paired.setTemplate (h : Paired R e e') (hR : VariableStore.Parallel R) (template : String) :
    (e'.setTemplate template).1 = (e.setTemplate template).1 ∧
      Paired R (e.setTemplate template).2 (e'.setTemplate template).2 := by
  cases hd : declarations template with
  | ok ds =>
    rw [setTemplate_of_ok e hd, setTemplate_of_ok e' hd, hR.get?_eq h.store]
    exact ⟨hR.result_save_eq h.store _, ⟨rfl, rfl, rfl, rfl⟩, hR.save h.store _⟩
  | error error =>
    rw [setTemplate_of_error e hd, setTemplate_of_error e' hd]
    exact ⟨rfl, ⟨rfl, h.alike.vars_eq, rfl, rfl⟩, h.store⟩

theorem paired_attach (hR : VariableStore.Parallel R) {s : σ} {s' : τ} (h : R s s') (template : String) :
    (attach s' template).1 = (attach s template).1 ∧ Paired R (attach s template).2 (attach s' template).2 :=
  Paired.setTemplate ⟨alike_idle s s', h⟩ hR template

theorem Paired.setValue (h : Paired R e e') (hR : VariableStore.Parallel R) (name value : String) :
    (e'.setValue name value).1 = (e.setValue name value).1 ∧
      Paired R (e.setValue name value).2 (e'.setValue name value).2 := by
  by_cases hn : name ∈ e.vars.names
  · have hn' : name ∈ e'.vars.names := h.alike.vars_eq ▸ hn
    rw [setValue_of_mem e value hn, setValue_of_mem e' value hn', ← h.alike.vars_eq, ← h.alike.template_eq,
      ← h.alike.error_eq, hR.result_save_eq h.store]
    exact ⟨rfl, ⟨rfl, rfl, rfl, rfl⟩, hR.save h.store _⟩
  · have hn' : name ∉ e'.vars.names := h.alike.vars_eq ▸ hn
    rw [setValue_of_not_mem e value hn, setValue_of_not_mem e' value hn']
    exact ⟨rfl, h⟩

end Edits

end Engine

/-! ### One store on two disks -/

section OnDisk

variable {place : Place} {c c' : Content}

theorem JsonFileStore.makeParent_of_agreeBut {disk disk' : Disk} (h : disk.AgreeBut place c c' disk') (path : Path) :
    (makeParent disk' path).1 = (makeParent disk path).1 ∧
      (makeParent disk path).2.AgreeBut place c c' (makeParent disk' path).2 := by
  unfold makeParent
  cases path.parent? with
  | none => exact ⟨rfl, h⟩
  | some parent =>
    dsimp only
    split
    · exact ⟨rfl, h⟩
    · obtain ⟨hresult, hmade⟩ := h.makeDirectories parent
      rcases hm : disk.makeDirectories parent with ⟨result, made⟩
      rcases hm' : disk'.makeDirectories parent with ⟨result', made'⟩
      rw [hm, hm'] at hresult hmade
      dsimp only at hresult hmade
      subst hresult
      cases result' with
      | ok u => exact ⟨rfl, hmade⟩
      | error cause => exact ⟨rfl, hmade⟩

/-- A save comes to the same on both disks. -/
theorem JsonFileStore.save_of_agreeBut (s : JsonFileStore) {disk disk' : Disk} (h : disk.AgreeBut place c c' disk')
    (vs : VariableSet) :
    (s.save disk' vs).1 = (s.save disk vs).1 ∧ (s.save disk' vs).2.1 = (s.save disk vs).2.1 ∧
      (s.save disk vs).2.2.AgreeBut place c c' (s.save disk' vs).2.2 := by
  obtain ⟨hresult, hparent⟩ := makeParent_of_agreeBut h s.path
  rcases hm : makeParent disk s.path with ⟨result, made⟩
  rcases hm' : makeParent disk' s.path with ⟨result', made'⟩
  rw [hm, hm'] at hresult hparent
  dsimp only at hresult hparent
  subst hresult
  rw [JsonFileStore.save, JsonFileStore.save, hm, hm']
  cases result' with
  | error e => exact ⟨rfl, rfl, hparent⟩
  | ok u =>
    dsimp only
    obtain ⟨hresult, hwritten⟩ := hparent.write s.path ((s.root vs).text .indented)
    rcases hw : made.write s.path ((s.root vs).text .indented) with ⟨result, written⟩
    rcases hw' : made'.write s.path ((s.root vs).text .indented) with ⟨result', written'⟩
    rw [hw, hw'] at hresult hwritten
    dsimp only at hresult hwritten
    subst hresult
    cases result' with
    | ok u => exact ⟨rfl, rfl, hwritten⟩
    | error cause => exact ⟨rfl, rfl, hwritten⟩

namespace StoreOnDisk

/-- The same store, on disks that agree but for the file at the place. -/
structure AgreeBut (place : Place) (c c' : Content) (s s' : StoreOnDisk) : Prop where
  store_eq : s'.store = s.store
  disk : s.disk.AgreeBut place c c' s'.disk

theorem parallel (place : Place) (c c' : Content) : VariableStore.Parallel (AgreeBut place c c') where
  get?_eq := by
    rintro ⟨_, disk⟩ ⟨store, disk'⟩ ⟨rfl, -⟩
    rfl
  result_save_eq := by
    rintro ⟨_, disk⟩ ⟨store, disk'⟩ ⟨rfl, hdisk⟩ vs
    exact (store.save_of_agreeBut hdisk vs).1
  save := by
    rintro ⟨_, disk⟩ ⟨store, disk'⟩ ⟨rfl, hdisk⟩ vs
    obtain ⟨-, hstore, hsaved⟩ := store.save_of_agreeBut hdisk vs
    exact ⟨hstore, hsaved⟩

end StoreOnDisk

theorem ReadOnly.parallel [VariableStore σ] [VariableStore τ] {R : σ → τ → Prop} (h : VariableStore.Parallel R) :
    VariableStore.Parallel fun (s : ReadOnly σ) (s' : ReadOnly τ) => R s.store s'.store where
  get?_eq hs := h.get?_eq hs
  result_save_eq _ _ := rfl
  save hs _ := hs

end OnDisk

end TypedTemplates
