import Toolbox.Proofs.Registry.History

/-!
# Every answer of a registry is a view of its history

`Registry.Reflects` lists what a registry answers in terms of what a history leaves under each name
(`Leaves`).  A registry reflects a history as soon as its catalogue is consistent and each look-up
recalls the history (`reflects_of_find?`); after a run both hold (`run_reflects_history`).
-/

namespace Toolbox

namespace Catalogue

/-- A change has its effect on every name. -/
theorem find?_apply (c : Catalogue) (change : Change) (name : String) :
    (c.apply change).tools.find? name = change.effect name (c.tools.find? name) := by
  cases change with
  | stored t valid =>
    show (c.tools.insert t.name t).find? name = _
    rw [Dict.find?_insert]
    simp only [Change.effect, eq_comm]
  | removed n =>
    show ((c.remove? n).getD c).tools.find? name = if n = name then none else c.tools.find? name
    unfold remove?
    cases h : c.tools.find? n with
    | none =>
      split
      next hn => exact hn ▸ h
      next => rfl
    | some t =>
      show (c.tools.erase n).find? name = _
      rw [Dict.find?_erase]
      simp only [eq_comm]
  | switched n enabled =>
    show ((c.setEnabled? n enabled).getD c).tools.find? name =
      if n = name then (c.tools.find? name).map fun t => { t with enabled } else c.tools.find? name
    unfold setEnabled?
    cases h : c.tools.find? n with
    | none =>
      split
      next hn =>
        subst hn
        rw [h]
        exact h
      next => rfl
    | some t =>
      show (c.tools.insert n { t with enabled }).find? name = _
      rw [Dict.find?_insert]
      by_cases hn : n = name
      · subst hn
        simp [h]
      · simp [hn, Ne.symm hn]
  | cleared => rfl

/-- Changes in turn have their effects in turn. -/
theorem find?_replay (c : Catalogue) (changes : List Change) (name : String) :
    (c.replay changes).tools.find? name =
      changes.foldl (Change.effect name) (c.tools.find? name) := by
  induction changes generalizing c with
  | nil => rfl
  | cons change changes ih =>
    rw [List.foldl_cons, ← find?_apply]
    exact ih (c.apply change)

/-- The names of the tools are the names they are stored under. -/
theorem Consistent.map_name_values {c : Catalogue} (h : c.Consistent) :
    c.tools.values.map (·.name) = c.tools.keys := by
  rw [Dict.values, Dict.keys, List.map_map]
  apply List.map_congr_left
  rintro ⟨name, t⟩ hm
  exact h.keyed name t ((c.tools.find?_eq_some_iff name t).mpr hm)

end Catalogue

namespace Registry

/-- What the operations of a registry answer about the tools that a history leaves. -/
structure Reflects (r : Registry) (history : List Change) : Prop where
  find_some : ∀ name t, r.find? name = some t ↔ Leaves history name t
  find_none : ∀ name, r.find? name = none ↔ LeavesNone history name
  contains : ∀ name, r.contains name = true ↔ ∃ t, Leaves history name t
  size : r.size = {name | ∃ t, Leaves history name t}.ncard
  isEmpty : r.isEmpty = true ↔ ∀ name t, ¬ Leaves history name t
  names_ascend : ∀ category, (r.names category).Pairwise (· < ·)
  mem_names : ∀ name, name ∈ r.names none ↔ ∃ t, Leaves history name t
  mem_names_of : ∀ category name, name ∈ r.names (some category) ↔
    ∃ t, Leaves history name t ∧ t.category = category
  categories_ascend : r.categoryNames.Pairwise (· < ·)
  mem_categories : ∀ category, category ∈ r.categoryNames ↔
    ∃ name t, Leaves history name t ∧ t.category = category
  definitions_ascend : (r.definitions.map (·.name)).Pairwise (· < ·)
  mem_definitions : ∀ d, d ∈ r.definitions ↔ ∃ t, Leaves history d.name t ∧ t.enabled = true ∧
    d.description = t.description ∧ d.parameters = t.parameters
  unregister : ∀ name, (r.unregister name).answer = true ↔ ∃ t, Leaves history name t
  setEnabled : ∀ name enabled, (r.setEnabled name enabled).answer = true ↔
    ∃ t, Leaves history name t

theorem unregister_answer (r : Registry) (name : String) :
    (r.unregister name).answer = true ↔ ∃ t, r.find? name = some t := by
  unfold unregister find? Catalogue.remove?
  cases r.catalogue.tools.find? name <;> simp

theorem setEnabled_answer (r : Registry) (name : String) (enabled : Bool) :
    (r.setEnabled name enabled).answer = true ↔ ∃ t, r.find? name = some t := by
  unfold setEnabled find? Catalogue.setEnabled?
  cases r.catalogue.tools.find? name <;> simp

theorem mem_definitions_iff {r : Registry} (h : r.catalogue.Consistent) (d : Definition) :
    d ∈ r.definitions ↔ ∃ t, r.find? d.name = some t ∧ t.enabled = true ∧
      d.description = t.description ∧ d.parameters = t.parameters := by
  unfold definitions
  rw [List.mem_map]
  constructor
  · rintro ⟨t, ht, rfl⟩
    obtain ⟨hm, he⟩ := List.mem_filter.mp ht
    obtain ⟨name, hf⟩ := (r.catalogue.tools.mem_values t).mp hm
    obtain rfl : t.name = name := h.keyed name t hf
    exact ⟨t, hf, he, rfl, rfl⟩
  · rintro ⟨t, hf, he, hdescription, hparameters⟩
    refine ⟨t, List.mem_filter.mpr ⟨(r.catalogue.tools.mem_values t).mpr ⟨d.name, hf⟩, he⟩, ?_⟩
    have hn : t.name = d.name := h.keyed d.name t hf
    cases d
    simp_all [Tool.definition]

theorem names_ascend (r : Registry) (category : Option String) :
    (r.names category).Pairwise (· < ·) := by
  cases category with
  | none => exact r.catalogue.tools.keys_ascending
  | some category => exact r.catalogue.namesIn_ascending category

theorem mem_names_iff (r : Registry) (name : String) :
    name ∈ r.names none ↔ ∃ t, r.find? name = some t :=
  (r.catalogue.tools.mem_keys name).trans (r.catalogue.tools.contains_iff name)

theorem mem_names_of_iff {r : Registry} (h : r.catalogue.Consistent) (category name : String) :
    name ∈ r.names (some category) ↔ ∃ t, r.find? name = some t ∧ t.category = category :=
  (r.catalogue.mem_namesIn category name).trans (h.listed category name)

theorem mem_categoryNames_iff {r : Registry} (h : r.catalogue.Consistent) (category : String) :
    category ∈ r.categoryNames ↔ ∃ name t, r.find? name = some t ∧ t.category = category := by
  constructor
  · intro hc
    obtain ⟨name, hm⟩ := List.exists_mem_of_ne_nil _ (Catalogue.namesIn_ne_nil h.noneEmpty hc)
    exact ⟨name, (mem_names_of_iff h category name).mp hm⟩
  · rintro ⟨name, t, ht⟩
    exact Catalogue.mem_categories_of_listed ((h.listed category name).mpr ⟨t, ht⟩)

theorem definitions_ascend {r : Registry} (h : r.catalogue.Consistent) :
    (r.definitions.map (·.name)).Pairwise (· < ·) := by
  unfold definitions
  rw [List.map_map]
  have hkeys : (r.catalogue.tools.values.map (·.name)).Pairwise (· < ·) := by
    rw [h.map_name_values]
    exact r.catalogue.tools.keys_ascending
  exact hkeys.sublist (List.filter_sublist.map _)

/-- A registry reflects a history if its indices agree and its look-ups recall the history. -/
theorem reflects_of_find? {r : Registry} {history : List Change} (h : r.catalogue.Consistent)
    (hfind : ∀ name, r.find? name = heldAfter name history) : r.Reflects history := by
  have hsome : ∀ name t, r.find? name = some t ↔ Leaves history name t := by
    intro name t
    rw [hfind, heldAfter_eq_some_iff]
  have hmem : ∀ name, name ∈ r.names none ↔ ∃ t, Leaves history name t := by
    intro name
    simp only [mem_names_iff, hsome]
  refine
    { find_some := hsome
      find_none := fun name => by rw [hfind, heldAfter_eq_none_iff]
      contains := fun name => ?_
      size := ?_
      isEmpty := ?_
      names_ascend := r.names_ascend
      mem_names := hmem
      mem_names_of := fun category name => by simp only [mem_names_of_iff h, hsome]
      categories_ascend := r.catalogue.categories.keys_ascending
      mem_categories := fun category => by simp only [mem_categoryNames_iff h, hsome]
      definitions_ascend := definitions_ascend h
      mem_definitions := fun d => by simp only [mem_definitions_iff h, hsome]
      unregister := fun name => by simp only [unregister_answer, hsome]
      setEnabled := fun name enabled => by simp only [setEnabled_answer, hsome] }
  · rw [← hmem]
    exact (r.catalogue.tools.mem_keys name).symm
  · have hset : {name | ∃ t, Leaves history name t} = ↑(r.names none).toFinset := by
      ext name
      simp [hmem]
    have hcard : (r.names none).toFinset.card = (r.names none).length :=
      List.toFinset_card_of_nodup r.catalogue.tools.keys_nodup
    rw [hset, Set.ncard_coe_finset, hcard]
    exact r.catalogue.tools.length_keys.symm
  · have hnil : r.isEmpty = true ↔ r.names none = [] := (r.catalogue.tools.keys_eq_nil_iff).symm
    rw [hnil, List.eq_nil_iff_forall_not_mem]
    simp only [hmem, not_exists]

/-! ## Runs -/

theorem run_find? (settings : Settings) (executor : Option Executor) (os : List Operation)
    (name : String) :
    ((blank settings executor).run os).state.find? name = heldAfter name (changesOf os) := by
  rw [find?, run_blank_catalogue, Catalogue.find?_replay]
  rfl

/-- After any run of operations on a registry without tools every answer about tools is a view of
what the changes of the run leave under each name.  What is found under a name is the same after
every run, with any settings and executors, whose changes of that name are the same.  The changes
record exactly the registrations that succeed. -/
theorem run_reflects_history (settings : Settings) (executor : Option Executor)
    (os : List Operation) :
    let r := ((blank settings executor).run os).state
    r.Reflects (changesOf os) ∧
      (∀ name settings' executor' os',
        (changesOf os').filter (·.concerns name) = (changesOf os).filter (·.concerns name) →
        ((blank settings' executor').run os').state.find? name = r.find? name) ∧
      (∀ o result stored, (r.perform o).answer = .registered result →
        (result = .ok stored ↔ ∃ valid, o.changes = [.stored stored valid])) ∧
      ∀ ds, (r.perform (.registerDeclared ds)).answer =
        .count (Operation.registerDeclared ds).changes.length := by
  intro r
  have hconsistent : r.catalogue.Consistent := by
    rw [show r.catalogue = _ from run_blank_catalogue settings executor os]
    exact Catalogue.consistent_empty.replay _
  refine ⟨reflects_of_find? hconsistent (run_find? settings executor os), ?_, ?_, ?_⟩
  · intro name settings' executor' os' hsame
    rw [run_find?, show r.find? name = _ from run_find? settings executor os name,
      ← heldAfter_filter_concerns, hsame, heldAfter_filter_concerns]
  · intro o result stored h
    exact r.perform_eq_ok_iff o result stored h
  · intro ds
    exact congrArg Answer.count (r.registerDeclared_spec ds).2

end Registry

end Toolbox
