import Mathlib.Data.List.Nodup
import Toolbox.Proofs.Registry.Views

/-!
# Operations on different tools commute

A catalogue whose indices agree is determined by its tools (`Consistent.ext`): what the index of
categories went through on the way does not matter.  An operation that names one tool acts on what
is found under that name alone (`find?_perform_of_ne`) and is answered from that alone
(`perform_answer_congr`).  So operations on pairwise different tools can be done in any order
(`run_perm`), each of them being answered as if it were the only one (`run_answer`).
-/

namespace Toolbox

/-! ## Catalogues with the same tools -/

theorem NameSet.ext {ns ns' : NameSet} (h : ∀ name, ns.contains name = ns'.contains name) :
    ns = ns' := by
  apply Dict.ext_find?
  intro name
  have hname := h name
  unfold Dict.contains at hname
  cases hn : ns.find? name with
  | none =>
    rw [hn] at hname
    exact (Option.isNone_iff_eq_none.mp (by simpa using hname.symm)).symm
  | some u =>
    rw [hn] at hname
    obtain ⟨u', hn'⟩ := Option.isSome_iff_exists.mp hname.symm
    exact hn'.symm

/-- A category that one index has is the same in another one that lists the same names. -/
theorem NoneEmpty.find?_eq {index index' : Dict NameSet} (h : NoneEmpty index)
    (hlisted : ∀ category name, Listed index category name ↔ Listed index' category name)
    {category : String} {names : NameSet} (hnames : index.find? category = some names) :
    index'.find? category = some names := by
  have hmem : ∀ name, names.contains name = true ↔ Listed index category name := by
    intro name
    simp [Listed, hnames]
  obtain ⟨name, hname⟩ : ∃ name, names.contains name = true := by
    by_contra hnone
    have hempty : names.isEmpty = true :=
      names.isEmpty_iff.mpr fun name => by simpa using fun hname => hnone ⟨name, hname⟩
    rw [h category names hnames] at hempty
    cases hempty
  obtain ⟨names', hnames', -⟩ := (hlisted category name).mp ((hmem name).mp hname)
  have hsame : names = names' := by
    refine NameSet.ext fun name => Bool.eq_iff_iff.mpr ?_
    rw [hmem, hlisted]
    simp [Listed, hnames']
  rw [hnames', hsame]

/-- The tools of a consistent catalogue determine its categories. -/
theorem Catalogue.Consistent.ext {c c' : Catalogue} (h : c.Consistent) (h' : c'.Consistent)
    (htools : c.tools = c'.tools) : c = c' := by
  have hlisted : ∀ category name,
      Listed c.categories category name ↔ Listed c'.categories category name := by
    intro category name
    rw [h.listed, h'.listed, htools]
  have hcategories : c.categories = c'.categories := by
    apply Dict.ext_find?
    intro category
    cases hc : c.categories.find? category with
    | some names => exact (h.noneEmpty.find?_eq hlisted hc).symm
    | none =>
      cases hc' : c'.categories.find? category with
      | none => rfl
      | some names =>
        have hback := h'.noneEmpty.find?_eq (fun category name => (hlisted category name).symm) hc'
        rw [hc] at hback
        cases hback
  cases c
  cases c'
  cases htools
  cases hcategories
  rfl

/-! ## Operations that name one tool -/

/-- Whether an answer is that of a registration that succeeded. -/
def Answer.registers : Answer → Bool
  | .registered (.ok _) => true
  | _ => false

namespace Operation

/-- The tool that an operation names, if it is about one. -/
def subject? : Operation → Option String
  | .register t => some t.name
  | .submit g i => some (g.name.getD i.signature.name)
  | .declare d => some d.name
  | .unregister name | .setEnabled name _ => some name
  | .registerDeclared _ | .clear | .attach _ | .detach | .invoke .. | .find _ | .contains _
  | .names _ | .categoryNames | .definitions | .size | .settings | .debugText => none

/-- What is found under `name` after an operation, given what was found there before. -/
def effect (name : String) (held : Option Tool) (o : Operation) : Option Tool :=
  o.changes.foldl (Change.effect name) held

/-- Whether each of the operations names a tool, and each another one. -/
def Apart (os : List Operation) : Prop :=
  (∀ o ∈ os, o.subject?.isSome = true) ∧ (os.map subject?).Nodup

theorem apart_map {α : Type} {f : α → Operation} {name : α → String}
    (hf : ∀ a, (f a).subject? = some (name a)) {as : List α} (h : (as.map name).Nodup) :
    Apart (as.map f) := by
  refine ⟨?_, ?_⟩
  · rintro o ho
    obtain ⟨a, -, rfl⟩ := List.mem_map.mp ho
    rw [hf a]
    rfl
  · have hsubjects : (as.map f).map subject? = (as.map name).map some := by
      rw [List.map_map, List.map_map]
      exact List.map_congr_left fun a _ => hf a
    rw [hsubjects]
    exact h.map (Option.some_injective _)

theorem Apart.perm {os os' : List Operation} (h : Apart os) (hperm : os.Perm os') : Apart os' :=
  ⟨fun o ho => h.1 o (hperm.mem_iff.mpr ho), ((hperm.map _).nodup_iff).mp h.2⟩

theorem apart_pair {o p : Operation} {name other : String} (ho : o.subject? = some name)
    (hp : p.subject? = some other) (h : name ≠ other) : Apart [o, p] := by
  refine ⟨?_, ?_⟩
  · simp [ho, hp]
  · simp [ho, hp, h]

end Operation

theorem Tool.effect_changes_of_ne {t : Tool} {name : String} (h : t.name ≠ name)
    (held : Option Tool) : t.changes.foldl (Change.effect name) held = held := by
  cases hvalid : t.validate with
  | ok u =>
    rw [changes_of_valid hvalid]
    exact if_neg h
  | error e =>
    rw [changes_of_invalid hvalid]
    rfl

/-- An operation has no effect on a tool that it does not name. -/
theorem Operation.effect_of_ne {o : Operation} {name other : String} (ho : o.subject? = some name)
    (h : name ≠ other) (held : Option Tool) : o.effect other held = held := by
  cases o with
  | register t =>
    cases ho
    exact t.effect_changes_of_ne h held
  | submit g i =>
    cases ho
    exact (g.tool i).effect_changes_of_ne h held
  | declare d =>
    cases ho
    exact d.tool.effect_changes_of_ne h held
  | unregister n =>
    cases ho
    exact if_neg h
  | setEnabled n enabled =>
    cases ho
    exact if_neg h
  | registerDeclared | clear | attach | detach | invoke | find | contains | names | categoryNames
  | definitions | size | settings | debugText => cases ho

/-- Of two operations that name different tools, one at least leaves a given name alone. -/
theorem Operation.effect_comm {o p : Operation} {name other : String} (ho : o.subject? = some name)
    (hp : p.subject? = some other) (h : name ≠ other) (n : String) (held : Option Tool) :
    p.effect n (o.effect n held) = o.effect n (p.effect n held) := by
  by_cases hn : name = n
  · have hother : other ≠ n := fun he => h (hn.trans he.symm)
    rw [effect_of_ne hp hother, effect_of_ne hp hother]
  · rw [effect_of_ne ho hn, effect_of_ne ho hn]

namespace Registry

variable (r : Registry)

theorem find?_perform (o : Operation) (name : String) :
    (r.perform o).state.find? name = o.effect name (r.find? name) := by
  unfold find?
  rw [perform_catalogue]
  exact r.catalogue.find?_replay o.changes name

theorem find?_run (os : List Operation) (name : String) :
    (r.run os).state.find? name = os.foldl (Operation.effect name) (r.find? name) := by
  induction os generalizing r with
  | nil => rfl
  | cons o os ih =>
    rw [List.foldl_cons, ← find?_perform]
    exact ih (r.perform o).state

variable {r} {s : Registry}

theorem register_answer_congr (t : Tool) : (r.register t).answer = (s.register t).answer := by
  cases h : t.validate with
  | ok u => rw [(r.register_of_valid h).1, (s.register_of_valid h).1]
  | error e => rw [r.register_of_invalid h, s.register_of_invalid h]

/-- What an operation answers depends on the tool that it names and on nothing else. -/
theorem perform_answer_congr {o : Operation} {name : String} (ho : o.subject? = some name)
    (h : r.find? name = s.find? name) : (r.perform o).answer = (s.perform o).answer := by
  cases o with
  | register t => exact congrArg Answer.registered (register_answer_congr t)
  | submit g i => exact congrArg Answer.registered (register_answer_congr (g.toTool i).value)
  | declare d =>
    exact congrArg Answer.registered
      (register_answer_congr (d.registration.toTool d.invoker).value)
  | unregister n =>
    cases ho
    refine congrArg Answer.flag (Bool.eq_iff_iff.mpr ?_)
    rw [unregister_answer, unregister_answer, h]
  | setEnabled n enabled =>
    cases ho
    refine congrArg Answer.flag (Bool.eq_iff_iff.mpr ?_)
    rw [setEnabled_answer, setEnabled_answer, h]
  | registerDeclared | clear | attach | detach | invoke | find | contains | names | categoryNames
  | definitions | size | settings | debugText => cases ho

/-! ## Any order -/

variable (r) in
/-- Each of the operations is answered as if it were the only one. -/
theorem run_answer {os : List Operation} (h : Operation.Apart os) :
    (r.run os).answer = os.map fun o => (r.perform o).answer := by
  induction os generalizing r with
  | nil => rfl
  | cons o os ih =>
    obtain ⟨hnamed, hdistinct⟩ := h
    rw [List.forall_mem_cons] at hnamed
    rw [List.map_cons, List.nodup_cons] at hdistinct
    rw [run, Report.andThen_answer, Report.map_answer, ih _ ⟨hnamed.2, hdistinct.2⟩, List.map_cons]
    refine congrArg (_ :: ·) (List.map_congr_left fun p hp => ?_)
    obtain ⟨name, ho⟩ := Option.isSome_iff_exists.mp hnamed.1
    obtain ⟨other, hother⟩ := Option.isSome_iff_exists.mp (hnamed.2 p hp)
    have hne : name ≠ other := by
      rintro rfl
      exact hdistinct.1 (List.mem_map.mpr ⟨p, hp, hother.trans ho.symm⟩)
    refine perform_answer_congr hother ?_
    rw [find?_perform, Operation.effect_of_ne ho hne]

/-- Operations that name different tools leave the same tools in whatever order they are done. -/
theorem find?_run_perm {os os' : List Operation} (h : Operation.Apart os) (hperm : os.Perm os')
    (name : String) : (r.run os).state.find? name = (r.run os').state.find? name := by
  rw [find?_run, find?_run]
  refine hperm.foldl_eq' ?_ (r.find? name)
  intro o ho p hp held
  obtain ⟨n, hn⟩ := Option.isSome_iff_exists.mp (h.1 o ho)
  obtain ⟨m, hm⟩ := Option.isSome_iff_exists.mp (h.1 p hp)
  by_cases hne : n = m
  · -- two of the operations name the same tool only if they are one
    have hsame : o = p := List.inj_on_of_nodup_map h.2 ho hp (by rw [hn, hm, hne])
    rw [hsame]
  · exact Operation.effect_comm hn hm hne name held

theorem run_perm (hr : r.catalogue.Consistent) {os os' : List Operation} (h : Operation.Apart os)
    (hperm : os.Perm os') : (r.run os).state.catalogue = (r.run os').state.catalogue := by
  have hconsistent : ∀ os, (r.run os).state.catalogue.Consistent := by
    intro os
    rw [run_catalogue]
    exact hr.replay _
  exact (hconsistent os).ext (hconsistent os') (Dict.ext_find? (find?_run_perm h hperm))

theorem registerDeclared_catalogue (r : Registry) (ds : List Declaration) :
    (r.registerDeclared ds).state.catalogue = (r.run (ds.map .declare)).state.catalogue := by
  rw [(r.registerDeclared_spec ds).1, run_catalogue, changesOf, List.flatMap_map]
  rfl

/-- What is counted are the declarations of valid tools. -/
theorem registerDeclared_answer (r : Registry) (ds : List Declaration) :
    (r.registerDeclared ds).answer = ds.countP (·.tool.validate.isOk) := by
  rw [(r.registerDeclared_spec ds).2]
  induction ds with
  | nil => rfl
  | cons d ds ih =>
    rw [Operation.changes_registerDeclared_cons, List.length_append, ih, List.countP_cons,
      Nat.add_comm]
    refine congrArg (Nat.add _) ?_
    cases h : d.tool.validate with
    | ok u =>
      rw [Tool.changes_of_valid h]
      rfl
    | error e =>
      rw [Tool.changes_of_invalid h]
      rfl

theorem countP_run_register (r : Registry) (tools : List Tool) :
    (r.run (tools.map .register)).answer.countP Answer.registers =
      tools.countP (·.validate.isOk) := by
  induction tools generalizing r with
  | nil => rfl
  | cons t tools ih =>
    rw [List.map_cons, run, Report.andThen_answer, Report.map_answer, List.countP_cons, ih,
      List.countP_cons]
    refine congrArg (Nat.add _) ?_
    show (if Answer.registers (.registered (r.register t).answer) = true then 1 else 0) = _
    cases h : t.validate with
    | ok u =>
      rw [(r.register_of_valid h).1]
      rfl
    | error e =>
      rw [r.register_of_invalid h]
      rfl

/-- In any registry that a run of operations on a registry without tools leads to, operations that
name different tools commute: in either order they leave the same tools in the same categories, and
each is answered as if it were the only one.  The same holds for any number of operations in any
order, as long as they name different tools.  So tools and declarations with different names can be
registered in any order, valid or not: the catalogue is the same, and as many are registered as are
valid. -/
theorem run_commutes (settings : Settings) (executor : Option Executor) (history : List Operation) :
    let r := ((blank settings executor).run history).state
    (∀ o p name other, o.subject? = some name → p.subject? = some other → name ≠ other →
      (r.run [o, p]).state.catalogue = (r.run [p, o]).state.catalogue ∧
        (r.run [o, p]).answer = [(r.perform o).answer, (r.perform p).answer] ∧
        (r.run [p, o]).answer = [(r.perform p).answer, (r.perform o).answer]) ∧
      (∀ os os', Operation.Apart os → os.Perm os' →
        (r.run os).state.catalogue = (r.run os').state.catalogue ∧
          (r.run os).answer = os.map (fun o => (r.perform o).answer) ∧
          (r.run os').answer = os'.map fun o => (r.perform o).answer) ∧
      (∀ tools tools' : List Tool, (tools.map (·.name)).Nodup → tools.Perm tools' →
        let a := r.run (tools.map .register)
        let b := r.run (tools'.map .register)
        a.state.catalogue = b.state.catalogue ∧
          a.answer.countP Answer.registers = tools.countP (·.validate.isOk) ∧
          b.answer.countP Answer.registers = tools.countP (·.validate.isOk)) ∧
      ∀ ds ds' : List Declaration, (ds.map (·.name)).Nodup → ds.Perm ds' →
        let a := r.registerDeclared ds
        let b := r.registerDeclared ds'
        a.state.catalogue = b.state.catalogue ∧
          a.answer = ds.countP (·.tool.validate.isOk) ∧
          b.answer = ds.countP (·.tool.validate.isOk) := by
  intro r
  have hr : r.catalogue.Consistent := run_blank_consistent settings executor history
  have hany : ∀ os os', Operation.Apart os → os.Perm os' →
      (r.run os).state.catalogue = (r.run os').state.catalogue ∧
        (r.run os).answer = os.map (fun o => (r.perform o).answer) ∧
        (r.run os').answer = os'.map fun o => (r.perform o).answer := by
    intro os os' h hperm
    exact ⟨run_perm hr h hperm, r.run_answer h, r.run_answer (h.perm hperm)⟩
  refine ⟨?_, hany, ?_, ?_⟩
  · intro o p name other ho hp hne
    exact hany [o, p] [p, o] (Operation.apart_pair ho hp hne) (List.Perm.swap p o [])
  · intro tools tools' hdistinct hperm a b
    have hapart : Operation.Apart (tools.map .register) :=
      Operation.apart_map (fun t => rfl) hdistinct
    refine ⟨run_perm hr hapart (hperm.map _), r.countP_run_register tools, ?_⟩
    rw [hperm.countP_eq]
    exact r.countP_run_register tools'
  · intro ds ds' hdistinct hperm a b
    have hapart : Operation.Apart (ds.map .declare) :=
      Operation.apart_map (fun d => rfl) hdistinct
    refine ⟨?_, r.registerDeclared_answer ds, ?_⟩
    · show (r.registerDeclared ds).state.catalogue = (r.registerDeclared ds').state.catalogue
      rw [registerDeclared_catalogue, registerDeclared_catalogue]
      exact run_perm hr hapart (hperm.map _)
    · rw [hperm.countP_eq]
      exact r.registerDeclared_answer ds'

/-- A tool leaves the category that another one enters. -/
theorem run_commutes_shared_category :
    let clock : Tool :=
      { name := "clock", category := "time"
        invoker := ⟨{ name := "clock" }, fun _ => pure (.ok .null)⟩ }
    let diary : Tool := { clock with name := "diary", category := "home" }
    let r := ((blank {} none).run [.register clock, .register diary]).state
    let o : Operation := .unregister "clock"
    let p : Operation := .register { diary with category := "time" }
    r.categoryNames = ["home", "time"] ∧ (r.run [o]).state.categoryNames = ["home"] ∧
      (r.run [o, p]).state.categoryNames = ["time"] ∧
      (r.run [o, p]).state.catalogue = (r.run [p, o]).state.catalogue ∧
      (r.run [p, o]).answer = [(r.perform p).answer, (r.perform o).answer] := by
  intro clock diary r o p
  obtain ⟨hcatalogue, -, hanswer⟩ :=
    (run_commutes {} none [.register clock, .register diary]).1 o p "clock" "diary" rfl rfl
      (by decide)
  exact ⟨by decide +kernel, by decide +kernel, by decide +kernel, hcatalogue, hanswer⟩

end Registry

end Toolbox
