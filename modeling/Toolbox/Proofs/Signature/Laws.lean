import Mathlib.Data.List.Nodup
import Toolbox.Proofs.Signature.Refusal
import Toolbox.Proofs.Text.ByteOrder

/-!
# Laws of binding

What binding answers is settled by the parameters and the arguments without a walk
(`bind_determined`): an argument that is not supplied comes before a name that no argument has, the
first of the arguments before the others, the name with the smallest bytes before the others.  What
is bound is settled by `Admits` and `Binds`, neither of which looks at the order of the parameters or
tells a default that is supplied from one that is filled in; the laws follow from there.
-/

namespace Toolbox

namespace Param

/-- Whether an argument is given or has a default that can be used. -/
def Supplied (p : Param) (args : Dict Json) : Prop :=
  p.name ∈ args.keys ∨ ∃ value, p.default = some (.json value)

theorem fallback_eq_some_iff (p : Param) (value : Json) :
    p.fallback = some value ↔ p.default = some (.json value) := by
  unfold fallback
  cases p.default with
  | none => simp
  | some d => cases d <;> simp

theorem isNone_value?_iff (p : Param) (args : Dict Json) :
    (p.value? args).isNone = true ↔ ¬ p.Supplied args := by
  have hfallback : (∃ value, p.default = some (.json value)) ↔ p.fallback ≠ none := by
    simp only [← fallback_eq_some_iff, Option.ne_none_iff_exists']
  rw [← Option.not_isSome, Bool.not_eq_true', ← Bool.not_eq_true, isSome_value?_iff, Supplied,
    hfallback, Classical.not_imp, not_or, ne_eq, Classical.not_not, and_comm]

end Param

namespace Signature

/-- Whether a name belongs to no argument: no parameter has it but a receiver. -/
def Foreign (s : Signature) (name : String) : Prop :=
  ∀ p ∈ s.params, p.name = name → p.receiver = true

theorem foreign_iff (s : Signature) (name : String) :
    s.Foreign name ↔ name ∉ paramNames s.arguments := by
  simp only [Foreign, not_mem_paramNames, arguments, List.mem_filter, Bool.not_eq_true']
  constructor
  · rintro h p ⟨hp, hargument⟩ hname
    rw [h p hp hname] at hargument
    cases hargument
  · intro h p hp hname
    cases hreceiver : p.receiver with
    | true => rfl
    | false => exact absurd hname (h p ⟨hp, hreceiver⟩)

/-! ## What is refused first -/

theorem absent?_eq_some {before after : List Param} {p : Param} {args : Dict Json}
    (hbefore : ∀ q ∈ before, q.Supplied args) (hp : ¬ p.Supplied args) :
    absent? (before ++ p :: after) args = some p := by
  rw [absent?, List.find?_eq_some_iff_append]
  refine ⟨(p.isNone_value?_iff args).mpr hp, before, after, rfl, fun q hq => ?_⟩
  rw [Bool.not_eq_true', ← Bool.not_eq_true, q.isNone_value?_iff, Classical.not_not]
  exact hbefore q hq

theorem absent?_eq_none {ps : List Param} {args : Dict Json} (h : ∀ p ∈ ps, p.Supplied args) :
    absent? ps args = none := by
  rw [absent?, List.find?_eq_none]
  intro p hp
  rw [p.isNone_value?_iff, Classical.not_not]
  exact h p hp

theorem unexpected?_eq_some {ps : List Param} {args : Dict Json} {name : String}
    (hmem : name ∈ args.keys) (hname : name ∉ paramNames ps)
    (hleast : ∀ other ∈ args.keys, other ∉ paramNames ps →
      ¬ Text.bytes other < Text.bytes name) : unexpected? ps args = some name := by
  refine find?_eq_some_of_least args.keys_ascending hmem (decide_eq_true hname) fun other ho htest => ?_
  rw [← Text.bytes_lt_iff]
  exact hleast other ho (of_decide_eq_true htest)

/-! ## What is bound -/

/-- Everything that was bound is admitted, and bound to itself. -/
theorem admits_binds_bound {ps : List Param} {args bound : Dict Json} (hadmits : Admits ps args)
    (hbinds : Binds ps args bound) : Admits ps bound ∧ Binds ps bound bound := by
  have hkeys := hadmits.mem_keys_iff hbinds
  refine ⟨⟨fun p hp _ => ?_, fun name hname => (hkeys name).mp hname⟩, fun p hp => ?_,
    hbinds.no_other⟩
  · exact (hkeys p.name).mpr (mem_paramNames.mpr ⟨p, hp, rfl⟩)
  · have hsome : p.name ∈ bound.keys := (hkeys p.name).mpr (mem_paramNames.mpr ⟨p, hp, rfl⟩)
    rw [Dict.mem_keys, Dict.contains_iff] at hsome
    obtain ⟨value, hvalue⟩ := hsome
    rw [hvalue, Option.some_or]

/-- A default that is supplied can be left out. -/
theorem admits_binds_erase {ps : List Param} (hdistinct : (paramNames ps).Nodup)
    {args bound : Dict Json} (hadmits : Admits ps args) (hbinds : Binds ps args bound) {p : Param}
    (hp : p ∈ ps) {value : Json} (hdefault : p.fallback = some value)
    (hvalue : args.find? p.name = some value) :
    Admits ps (args.erase p.name) ∧ Binds ps (args.erase p.name) bound := by
  have hsame : ∀ q ∈ ps, q.name = p.name → q = p := fun q hq hname =>
    List.inj_on_of_nodup_map hdistinct hq hp hname
  refine ⟨⟨fun q hq hnone => ?_, fun name hname => ?_⟩, fun q hq => ?_, hbinds.no_other⟩
  · rw [Dict.mem_keys, Dict.contains_erase, ← Dict.mem_keys]
    refine ⟨fun hname => ?_, hadmits.1 q hq hnone⟩
    rw [hsame q hq hname, hdefault] at hnone
    cases hnone
  · rw [Dict.mem_keys, Dict.contains_erase, ← Dict.mem_keys] at hname
    exact hadmits.2 name hname.2
  · rw [hbinds.argument q hq, Dict.find?_erase]
    split
    next hname => rw [hsame q hq hname, hvalue, hdefault, Option.some_or, Option.none_or]
    next => rfl

theorem mem_paramNames_congr {ps qs : List Param} (h : ∀ p, p ∈ ps ↔ p ∈ qs) (name : String) :
    name ∈ paramNames ps ↔ name ∈ paramNames qs := by
  simp only [mem_paramNames, h]

/-- The order of the arguments does not matter. -/
theorem admits_binds_congr {ps qs : List Param} (h : ∀ p, p ∈ ps ↔ p ∈ qs) {args bound : Dict Json}
    (hadmits : Admits ps args) (hbinds : Binds ps args bound) :
    Admits qs args ∧ Binds qs args bound := by
  have hnames := mem_paramNames_congr h
  refine ⟨⟨fun p hp => hadmits.1 p ((h p).mpr hp), fun name hname => ?_⟩,
    fun p hp => hbinds.argument p ((h p).mpr hp), fun name hname => ?_⟩
  · exact (hnames name).mp (hadmits.2 name hname)
  · exact hbinds.no_other name fun hmem => hname ((hnames name).mp hmem)

/-- What binding answers, for a signature whose arguments have distinct names.  It refuses the first
argument that is neither given nor has a usable default.  If there is none it refuses the name with
the smallest bytes among those given that belong to no argument, be it a receiver's.  If there is no
such name it succeeds.  What it then binds is bound to itself; and the same is bound if an argument
is left out that was given its default, and by a signature with the parameters in another order. -/
theorem bind_determined {s : Signature} (hdistinct : (paramNames s.arguments).Nodup)
    (args : Dict Json) :
    (∀ before p after, s.arguments = before ++ p :: after → (∀ q ∈ before, q.Supplied args) →
        ¬ p.Supplied args → s.bind args = .error (.invalidArguments s.name p.absence)) ∧
      ((∀ p ∈ s.arguments, p.Supplied args) →
        (∀ name ∈ args.keys, s.Foreign name →
          (∀ other ∈ args.keys, s.Foreign other → ¬ Text.bytes other < Text.bytes name) →
          s.bind args = .error (.invalidArguments s.name (.unexpected name))) ∧
        ((∀ name ∈ args.keys, ¬ s.Foreign name) → ∃ bound, s.bind args = .ok bound)) ∧
      ∀ bound, s.bind args = .ok bound →
        s.bind bound = .ok bound ∧
        (∀ p ∈ s.arguments, ∀ value, p.default = some (.json value) →
          args.find? p.name = some value → s.bind (args.erase p.name) = .ok bound) ∧
        ∀ t : Signature, t.params.Perm s.params → t.bind args = .ok bound := by
  simp only [foreign_iff]
  refine ⟨?_, fun hsupplied => ⟨?_, ?_⟩, ?_⟩
  · intro before p after hargs hbefore hp
    apply bind_of_refusal hdistinct
    rw [refusal?, hargs, absent?_eq_some hbefore hp]
    rfl
  · intro name hmem hname hleast
    apply bind_of_refusal hdistinct
    rw [refusal?, absent?_eq_none hsupplied, unexpected?_eq_some hmem hname hleast]
    rfl
  · intro hnames
    rw [exists_bind_iff_admits hdistinct]
    refine ⟨(absent?_eq_none_iff s.arguments args).mp (absent?_eq_none hsupplied), fun name hname => ?_⟩
    exact Classical.not_not.mp (hnames name hname)
  · intro bound hbound
    obtain ⟨hadmits, hbinds⟩ := (bind_eq_ok_iff_binds hdistinct bound).mp hbound
    refine ⟨?_, ?_, ?_⟩
    · exact (bind_eq_ok_iff_binds hdistinct bound).mpr (admits_binds_bound hadmits hbinds)
    · intro p hp value hdefault hvalue
      rw [bind_eq_ok_iff_binds hdistinct]
      exact admits_binds_erase hdistinct hadmits hbinds hp
        ((p.fallback_eq_some_iff value).mpr hdefault) hvalue
    · intro t ht
      have harguments : t.arguments.Perm s.arguments := ht.filter _
      have hdistinct' : (paramNames t.arguments).Nodup := (harguments.map _).nodup_iff.mpr hdistinct
      rw [bind_eq_ok_iff_binds hdistinct']
      exact admits_binds_congr (fun p => harguments.mem_iff.symm) hadmits hbinds

/-- The second argument is given its default, left out, and declared before the first. -/
theorem lookup_binds_default_left_out :
    (paramNames lookup.arguments).Nodup ∧
      ∃ bound, lookup.bind (.ofList [("fallback", .null), ("key", .string "k")]) = .ok bound ∧
        lookup.bind bound = .ok bound ∧
        lookup.bind (.ofList [("key", .string "k")]) = .ok bound ∧
        Signature.bind { lookup with params := lookup.params.reverse }
          (.ofList [("fallback", .null), ("key", .string "k")]) = .ok bound := by
  have hdistinct : (paramNames lookup.arguments).Nodup := by decide
  have hbind : ∃ bound, lookup.bind (.ofList [("fallback", .null), ("key", .string "k")]) =
      .ok bound := ⟨_, rfl⟩
  obtain ⟨bound, hbound⟩ := hbind
  obtain ⟨hself, herase, hperm⟩ := (bind_determined hdistinct _).2.2 bound hbound
  refine ⟨hdistinct, bound, hbound, hself, ?_, hperm _ (List.reverse_perm _)⟩
  exact herase { name := "fallback", type := .optional .text, default := some (.json .null) }
    (List.mem_cons_of_mem _ List.mem_cons_self) .null rfl rfl

end Signature

end Toolbox
