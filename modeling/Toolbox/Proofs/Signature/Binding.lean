import Toolbox.Proofs.Signature.Schema
import Toolbox.Signature

/-!
# Binding agrees with the schema

`bindParams` takes the arguments in turn.  If every argument without a default is supplied it ends
with each argument bound to the caller's value or to its default, and with the values that match no
argument left over (`bindParams_ok`); otherwise it fails (`bindParams_error`).  The schema of the
signature says the same: it requires what binding requires, has a property for what binding takes
and shows the default that binding fills in (`bind_agrees_with_schema`).
-/

namespace Toolbox.Signature

/-- An argument is bound to the caller's value or else to its default. -/
theorem bindParams_cons {p : Param} (h : p.Representable) (ps : List Param)
    (supplied bound : Dict Json) :
    bindParams (p :: ps) supplied bound =
      match (supplied.find? p.name).or p.fallback with
      | some value => bindParams ps (supplied.erase p.name) (bound.insert p.name value)
      | none => .error (.missing p.name) := by
  rw [bindParams]
  cases hf : supplied.find? p.name with
  | some value => rfl
  | none =>
    rw [Param.defaultValue_of_representable h, Option.none_or, Dict.erase_eq_self hf]
    cases p.fallback <;> rfl

theorem bindParams_ok (ps : List Param) (supplied bound : Dict Json)
    (hdistinct : (paramNames ps).Nodup) (hdefaults : ∀ p ∈ ps, p.Representable)
    (hsupplied : ∀ p ∈ ps, p.fallback = none → supplied.contains p.name = true) :
    ∃ rest bound', bindParams ps supplied bound = .ok (rest, bound') ∧
      (∀ name, rest.find? name = if name ∈ paramNames ps then none else supplied.find? name) ∧
      (∀ p ∈ ps, bound'.find? p.name = (supplied.find? p.name).or p.fallback) ∧
      ∀ name, name ∉ paramNames ps → bound'.find? name = bound.find? name := by
  induction ps generalizing supplied bound with
  | nil =>
    refine ⟨supplied, bound, rfl, fun _ => rfl, ?_, fun _ _ => rfl⟩
    intro p hp
    cases hp
  | cons p ps ih =>
    rw [List.forall_mem_cons] at hdefaults hsupplied
    rw [nodup_paramNames_cons] at hdistinct
    obtain ⟨hne, hdistinct⟩ := hdistinct
    have hvalue : ∃ value, (supplied.find? p.name).or p.fallback = some value := by
      cases hfallback : p.fallback with
      | some value => exact ⟨_, Option.or_some⟩
      | none =>
        rw [Option.or_none]
        exact (supplied.contains_iff p.name).mp (hsupplied.1 hfallback)
    obtain ⟨value, hvalue⟩ := hvalue
    have hrest : ∀ q ∈ ps, q.fallback = none → (supplied.erase p.name).contains q.name = true :=
      fun q hq hnone => (supplied.contains_erase _ _).mpr ⟨hne q hq, hsupplied.2 q hq hnone⟩
    obtain ⟨rest, bound', hok, hleft, hin, hout⟩ :=
      ih (supplied.erase p.name) (bound.insert p.name value) hdistinct hdefaults.2 hrest
    have hnames : ∀ name, name ∈ paramNames (p :: ps) ↔ name = p.name ∨ name ∈ paramNames ps :=
      fun _ => List.mem_cons
    refine ⟨rest, bound', ?_, ?_, ?_, ?_⟩
    · rw [bindParams_cons hdefaults.1, hvalue]
      exact hok
    · intro name
      rw [hleft, Dict.find?_erase]
      by_cases hname : name = p.name
      · simp [hnames, hname]
      · simp [hnames, hname]
    · rw [List.forall_mem_cons]
      refine ⟨?_, ?_⟩
      · rw [hout _ (not_mem_paramNames.mpr hne), Dict.find?_insert, if_pos rfl, hvalue]
      · intro q hq
        rw [hin q hq, Dict.find?_erase, if_neg (hne q hq)]
    · intro name hname
      rw [hnames, not_or] at hname
      rw [hout _ hname.2, Dict.find?_insert, if_neg hname.1]

theorem bindParams_error (ps : List Param) (supplied bound : Dict Json)
    (hdefaults : ∀ p ∈ ps, p.Representable) (p : Param) (hp : p ∈ ps) (hnone : p.fallback = none)
    (hmissing : supplied.find? p.name = none) : ∃ e, bindParams ps supplied bound = .error e := by
  induction ps generalizing supplied bound with
  | nil => cases hp
  | cons q ps ih =>
    rw [List.forall_mem_cons] at hdefaults
    rw [bindParams_cons hdefaults.1]
    rcases List.mem_cons.mp hp with rfl | hp
    · rw [hmissing, hnone]
      exact ⟨_, rfl⟩
    · cases (supplied.find? q.name).or q.fallback with
      | none => exact ⟨_, rfl⟩
      | some value =>
        apply ih _ _ hdefaults.2 hp
        rw [Dict.find?_erase, hmissing, ite_self]

theorem bindAll_of_ok {s : Signature} {args rest bound : Dict Json}
    (h : bindParams s.arguments args ∅ = .ok (rest, bound)) :
    s.bindAll args = rest.keys.head?.elim (.ok bound) fun name => .error (.unexpected name) := by
  unfold bindAll
  rw [h]
  simp only [Bind.bind, Except.bind]
  cases rest.keys.head? with
  | none => rfl
  | some name => rfl

theorem bindAll_of_error {s : Signature} {args : Dict Json} {e : ArgumentFault}
    (h : bindParams s.arguments args ∅ = .error e) : s.bindAll args = .error e := by
  rw [bindAll, h]
  rfl

theorem bind_eq_ok_iff (s : Signature) (args bound : Dict Json) :
    s.bind args = .ok bound ↔ s.bindAll args = .ok bound := by
  unfold bind
  cases s.bindAll args with
  | ok b =>
    constructor
    · intro h
      cases h
      rfl
    · intro h
      cases h
      rfl
  | error e =>
    constructor
    · intro h
      cases h
    · intro h
      cases h

/-- Whether a caller supplies every argument without a default, and nothing but arguments. -/
def Admits (ps : List Param) (args : Dict Json) : Prop :=
  (∀ p ∈ ps, p.fallback = none → p.name ∈ args.keys) ∧ ∀ name ∈ args.keys, name ∈ paramNames ps

/-- What is bound for a list of arguments: the caller's value or else the default, and nothing under
other names. -/
structure Binds (ps : List Param) (args bound : Dict Json) : Prop where
  argument : ∀ p ∈ ps, bound.find? p.name = (args.find? p.name).or p.fallback
  no_other : ∀ name, name ∉ paramNames ps → bound.find? name = none

theorem Admits.mem_keys_iff {ps : List Param} {args bound : Dict Json} (h : Admits ps args)
    (hbound : Binds ps args bound) (name : String) : name ∈ bound.keys ↔ name ∈ paramNames ps := by
  rw [Dict.mem_keys, Dict.contains]
  constructor
  · intro hsome
    apply Classical.byContradiction
    intro hname
    rw [hbound.no_other name hname] at hsome
    cases hsome
  · intro hname
    obtain ⟨p, hp, rfl⟩ := mem_paramNames.mp hname
    rw [hbound.argument p hp]
    cases hfallback : p.fallback with
    | some value => simp
    | none =>
      rw [Option.or_none]
      exact (args.mem_keys p.name).mp (h.1 p hp hfallback)

section
variable {s : Signature} (hdistinct : (paramNames s.arguments).Nodup)
  (hdefaults : ∀ p ∈ s.arguments, p.Representable) {args : Dict Json}
include hdistinct hdefaults

theorem bind_of_admits (h : Admits s.arguments args) :
    ∃ bound, s.bind args = .ok bound ∧ Binds s.arguments args bound := by
  obtain ⟨rest, bound, hok, hleft, hin, hout⟩ :=
    bindParams_ok s.arguments args ∅ hdistinct hdefaults fun p hp hnone =>
      (args.mem_keys p.name).mp (h.1 p hp hnone)
  have hrest : rest.keys = [] := by
    rw [List.eq_nil_iff_forall_not_mem]
    intro name hm
    rw [Dict.mem_keys, Dict.contains, hleft] at hm
    split at hm
    next => cases hm
    next hname => exact hname (h.2 name ((args.mem_keys name).mpr hm))
  refine ⟨bound, ?_, ⟨hin, hout⟩⟩
  rw [bind_eq_ok_iff, bindAll_of_ok hok, hrest]
  rfl

theorem admits_of_bind {bound : Dict Json} (h : s.bind args = .ok bound) :
    Admits s.arguments args := by
  rw [bind_eq_ok_iff] at h
  have hsupplied : ∀ p ∈ s.arguments, p.fallback = none → args.contains p.name = true := by
    intro p hp hnone
    apply Classical.byContradiction
    intro hmissing
    have hfind : args.find? p.name = none := by simpa [Dict.contains] using hmissing
    obtain ⟨e, he⟩ := bindParams_error s.arguments args ∅ hdefaults p hp hnone hfind
    rw [bindAll_of_error he] at h
    cases h
  refine ⟨fun p hp hnone => (args.mem_keys p.name).mpr (hsupplied p hp hnone), ?_⟩
  obtain ⟨rest, bound', hok, hleft, -, -⟩ :=
    bindParams_ok s.arguments args ∅ hdistinct hdefaults hsupplied
  intro name hm
  apply Classical.byContradiction
  intro hname
  -- a value that matches no argument is left over, and something left over is an error
  have hrest : name ∈ rest.keys := by
    rw [Dict.mem_keys, Dict.contains, hleft, if_neg hname]
    exact (args.mem_keys name).mp hm
  rw [bindAll_of_ok hok] at h
  cases hkeys : rest.keys with
  | nil =>
    rw [hkeys] at hrest
    cases hrest
  | cons other others =>
    rw [hkeys] at h
    cases h

end

/-! ## The schema and the binder -/

theorem Describes.admits_iff {docs : DocComment} {n : Schema} {ps : List Param}
    (h : Describes docs n ps) (args : Dict Json) :
    Admits ps args ↔ (∀ name ∈ n.requiredNames, name ∈ args.keys) ∧
      ∀ name ∈ args.keys, name ∈ n.propertyNames := by
  have hrequired : (∀ name ∈ n.requiredNames, name ∈ args.keys) ↔
      ∀ p ∈ ps, p.fallback = none → p.name ∈ args.keys := by
    rw [h.required, paramNames, List.forall_mem_map]
    simp only [List.mem_filter, Option.isNone_iff_eq_none, and_imp]
  rw [hrequired]
  simp only [h.mem_propertyNames]
  rfl

/-- The default that the schema shows for an argument is the one that binding fills in. -/
theorem Describes.default_eq {docs : DocComment} {n : Schema} {ps : List Param}
    (h : Describes docs n ps) {p : Param} (hp : p ∈ ps) :
    (n.property p.name).bind (·.default) = p.fallback := by
  rw [h.property p hp, Option.bind_some, Param.property_eq]
  rfl

/-- What is bound under a name is the caller's value or else the default that the schema shows. -/
theorem Describes.find?_bound {docs : DocComment} {n : Schema} {ps : List Param}
    (h : Describes docs n ps) {args bound : Dict Json} (hadmits : Admits ps args)
    (hbound : Binds ps args bound) (name : String) :
    bound.find? name = (args.find? name).or ((n.property name).bind (·.default)) := by
  by_cases hname : name ∈ paramNames ps
  · obtain ⟨p, hp, rfl⟩ := mem_paramNames.mp hname
    rw [hbound.argument p hp, h.default_eq hp]
  · have hargs : args.find? name = none := by
      cases hfind : args.find? name with
      | none => rfl
      | some value =>
        have hm : name ∈ args.keys :=
          (args.mem_keys name).mpr ((args.contains_iff name).mpr ⟨value, hfind⟩)
        exact absurd (hadmits.2 name hm) hname
    rw [hbound.no_other name hname, hargs, h.no_other name hname]
    rfl

/-- A valid signature whose defaults are representable has a schema, and binding agrees with it.
Arguments bind exactly if they have every required name and no name that is not a property.  The
names bound are then the properties; each holds the caller's value, or else the default that the
schema shows. -/
theorem bind_agrees_with_schema (s : Signature) (hvalid : s.validate = .ok ())
    (hdefaults : ∀ p ∈ s.arguments, p.Representable) :
    ∃ n, s.trySchema.value = .ok n ∧ ∀ args : Dict Json,
      ((∃ bound, s.bind args = .ok bound) ↔
        (∀ name ∈ n.requiredNames, name ∈ args.keys) ∧
          ∀ name ∈ args.keys, name ∈ n.propertyNames) ∧
      ∀ bound, s.bind args = .ok bound → bound.keys = n.propertyNames ∧
        ∀ name, bound.find? name =
          (args.find? name).or ((n.property name).bind (·.default)) := by
  have hs : s.WellFormed := s.validate_eq_ok_iff.mp hvalid
  have hdistinct := hs.arguments_distinct
  obtain ⟨n, hn, hdescribes⟩ := trySchema_describes hs hdefaults
  refine ⟨n, hn, fun args => ⟨?_, ?_⟩⟩
  · rw [← hdescribes.admits_iff]
    constructor
    · rintro ⟨bound, hb⟩
      exact admits_of_bind hdistinct hdefaults hb
    · intro h
      obtain ⟨bound, hb, -⟩ := bind_of_admits hdistinct hdefaults h
      exact ⟨bound, hb⟩
  · intro bound hb
    have hadmits := admits_of_bind hdistinct hdefaults hb
    obtain ⟨bound', hb', hbound⟩ := bind_of_admits hdistinct hdefaults hadmits
    rw [hb] at hb'
    cases hb'
    refine ⟨?_, hdescribes.find?_bound hadmits hbound⟩
    apply eq_of_ascending bound.keys_ascending hdescribes.sorted.propertyNames_ascend
    intro name
    rw [hadmits.mem_keys_iff hbound, hdescribes.mem_propertyNames]

/-- A method with a receiver, an argument without a default and one whose default is null. -/
def lookup : Signature :=
  { name := "lookup"
    params := [.ofReceiver "self", { name := "key", type := .text },
      { name := "fallback", type := .optional .text, default := some (.json .null) }] }

theorem lookup_binds_key :
    lookup.validate = .ok () ∧ (∀ p ∈ lookup.arguments, p.Representable) ∧
      ∃ n bound, lookup.trySchema.value = .ok n ∧
        lookup.bind (.ofList [("key", .string "k")]) = .ok bound ∧
        bound.keys = n.propertyNames ∧
        bound.find? "fallback" = (n.property "fallback").bind (·.default) := by
  have hvalid : lookup.validate = .ok () := rfl
  have hdefaults : ∀ p ∈ lookup.arguments, p.Representable := by
    intro p hp reason hd
    simp [lookup, arguments, Param.ofReceiver] at hp
    rcases hp with rfl | rfl
    · cases hd
    · cases hd
  obtain ⟨n, hn, h⟩ := bind_agrees_with_schema lookup hvalid hdefaults
  have hbind : ∃ bound, lookup.bind (.ofList [("key", .string "k")]) = .ok bound := ⟨_, rfl⟩
  obtain ⟨bound, hb⟩ := hbind
  obtain ⟨hkeys, hfind⟩ := (h _).2 bound hb
  exact ⟨hvalid, hdefaults, n, bound, hn, hb, hkeys, hfind "fallback"⟩

end Toolbox.Signature
