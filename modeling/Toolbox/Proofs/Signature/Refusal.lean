import Toolbox.Proofs.Signature.Binding

/-!
# What binding refuses

Binding refuses arguments for one reason at a time: the first argument in the order of declaration
that is given no value, or else the first name given that belongs to no argument.
`Signature.refusal?` names the reason without the walk, for any signature with distinct argument
names, unusable defaults included, and `bindAll_eq` says that binding does nothing else.
-/

namespace Toolbox

namespace Param

/-- What an argument is bound to: the caller's value or else the default. -/
def value? (p : Param) (args : Dict Json) : Option Json := (args.find? p.name).or p.fallback

/-- Why an argument is refused that is given no value. -/
def absence (p : Param) : ArgumentFault :=
  match p.default with
  | some (.unrepresentable reason) => .unusableDefault (.unrepresentableDefault p.name reason)
  | some (.json _) | none => .missing p.name

theorem isSome_value?_iff (p : Param) (args : Dict Json) :
    (p.value? args).isSome ↔ (p.fallback = none → p.name ∈ args.keys) := by
  rw [value?, Dict.mem_keys, Dict.contains, Option.isSome_or, Bool.or_eq_true]
  cases p.fallback with
  | none => simp
  | some value => simp

/-- The argument without a default that is unusable. -/
def settled (p : Param) : Param := { p with default := p.fallback.map .json }

theorem representable_settled (p : Param) : p.settled.Representable := by
  intro reason h
  rw [settled, Option.map_eq_some_iff] at h
  obtain ⟨value, -, hvalue⟩ := h
  cases hvalue

theorem fallback_settled (p : Param) : p.settled.fallback = p.fallback := by
  obtain ⟨name, type, declared, description, receiver⟩ := p
  cases declared with
  | none => rfl
  | some d => cases d <;> rfl

theorem value?_settled (p : Param) (args : Dict Json) : p.settled.value? args = p.value? args := by
  rw [value?, fallback_settled]
  rfl

end Param

namespace Signature

/-- The first argument, in the order of declaration, that is given no value. -/
def absent? (ps : List Param) (args : Dict Json) : Option Param :=
  ps.find? fun p => (p.value? args).isNone

/-- The first name given, in ascending order, that belongs to no argument. -/
def unexpected? (ps : List Param) (args : Dict Json) : Option String :=
  args.keys.find? fun name => name ∉ paramNames ps

/-- Why arguments are refused, if they are. -/
def refusal? (s : Signature) (args : Dict Json) : Option ArgumentFault :=
  ((absent? s.arguments args).map Param.absence).or
    ((unexpected? s.arguments args).map .unexpected)

theorem absent?_eq_none_iff (ps : List Param) (args : Dict Json) :
    absent? ps args = none ↔ ∀ p ∈ ps, p.fallback = none → p.name ∈ args.keys := by
  simp only [absent?, List.find?_eq_none, Option.isNone_iff_eq_none, ← ne_eq,
    ← Option.isSome_iff_ne_none, Param.isSome_value?_iff]

theorem unexpected?_eq_none_iff (ps : List Param) (args : Dict Json) :
    unexpected? ps args = none ↔ ∀ name ∈ args.keys, name ∈ paramNames ps := by
  simp [unexpected?, List.find?_eq_none]

/-- Arguments are refused exactly if one is absent or unexpected. -/
theorem refusal?_eq_none_iff (s : Signature) (args : Dict Json) :
    s.refusal? args = none ↔ Admits s.arguments args := by
  simp only [refusal?, Option.or_eq_none_iff, Option.map_eq_none_iff, absent?_eq_none_iff,
    unexpected?_eq_none_iff, Admits]

/-! ## The walk -/

/-- An argument is bound to its value, and without one it is refused. -/
theorem bindParams_step (p : Param) (ps : List Param) (supplied bound : Dict Json) :
    bindParams (p :: ps) supplied bound =
      match p.value? supplied with
      | some value => bindParams ps (supplied.erase p.name) (bound.insert p.name value)
      | none => .error p.absence := by
  rw [bindParams, Param.value?]
  cases hf : supplied.find? p.name with
  | some value => rfl
  | none =>
    rw [Option.none_or, Dict.erase_eq_self hf, Param.defaultValue, Param.fallback, Param.absence]
    cases p.default with
    | none => rfl
    | some d => cases d <;> rfl

/-- An unusable default makes a difference to the reason for a refusal alone. -/
theorem bindParams_settled (ps : List Param) (supplied bound : Dict Json)
    (result : Dict Json × Dict Json) :
    bindParams (ps.map Param.settled) supplied bound = .ok result ↔
      bindParams ps supplied bound = .ok result := by
  induction ps generalizing supplied bound with
  | nil => rfl
  | cons p ps ih =>
    rw [List.map_cons, bindParams_step, bindParams_step, p.value?_settled]
    cases p.value? supplied with
    | none => simp
    | some value => exact ih _ _

/-- What an argument of another name is bound to does not change when a value is used up. -/
theorem value?_erase {p q : Param} (h : q.name ≠ p.name) (supplied : Dict Json) :
    q.value? (supplied.erase p.name) = q.value? supplied := by
  rw [Param.value?, Dict.find?_erase, if_neg h]
  rfl

theorem absent?_erase {p : Param} {ps : List Param} (h : ∀ q ∈ ps, q.name ≠ p.name)
    (supplied : Dict Json) : absent? ps (supplied.erase p.name) = absent? ps supplied := by
  unfold absent?
  induction ps with
  | nil => rfl
  | cons q ps ih =>
    rw [List.forall_mem_cons] at h
    rw [List.find?_cons, List.find?_cons, value?_erase h.1, ih h.2]

/-- Among arguments with distinct names the walk is refused by the first that is absent. -/
theorem bindParams_of_absent {ps : List Param} (hdistinct : (paramNames ps).Nodup)
    {supplied : Dict Json} {p : Param} (h : absent? ps supplied = some p) (bound : Dict Json) :
    bindParams ps supplied bound = .error p.absence := by
  induction ps generalizing supplied bound with
  | nil => cases h
  | cons q ps ih =>
    rw [nodup_paramNames_cons] at hdistinct
    rw [absent?, List.find?_cons] at h
    rw [bindParams_step]
    cases hvalue : q.value? supplied with
    | none =>
      rw [hvalue] at h
      cases h
      rfl
    | some value =>
      rw [hvalue] at h
      exact ih hdistinct.2 ((absent?_erase hdistinct.1 supplied).trans h) _

/-- Among arguments with distinct names that are all given values the walk ends with each bound to
its value, and with the values left over that belong to none. -/
theorem bindParams_of_present {ps : List Param} (hdistinct : (paramNames ps).Nodup)
    {supplied : Dict Json} (h : absent? ps supplied = none) (bound : Dict Json) :
    ∃ rest bound', bindParams ps supplied bound = .ok (rest, bound') ∧
      (∀ name, rest.find? name = if name ∈ paramNames ps then none else supplied.find? name) ∧
      (∀ p ∈ ps, bound'.find? p.name = p.value? supplied) ∧
      ∀ name, name ∉ paramNames ps → bound'.find? name = bound.find? name := by
  have hnames : paramNames (ps.map Param.settled) = paramNames ps := by
    rw [paramNames, List.map_map]
    rfl
  have hdefaults : ∀ q ∈ ps.map Param.settled, q.Representable :=
    List.forall_mem_map.mpr fun p _ => p.representable_settled
  have hsupplied : ∀ q ∈ ps.map Param.settled, q.fallback = none →
      supplied.contains q.name = true := by
    rw [List.forall_mem_map]
    intro p hp hnone
    rw [p.fallback_settled] at hnone
    exact (supplied.mem_keys p.name).mp ((absent?_eq_none_iff ps supplied).mp h p hp hnone)
  obtain ⟨rest, bound', hok, hleft, hin, hout⟩ :=
    bindParams_ok (ps.map Param.settled) supplied bound (hnames ▸ hdistinct) hdefaults hsupplied
  rw [hnames] at hleft hout
  refine ⟨rest, bound', (bindParams_settled ps supplied bound _).mp hok, hleft, ?_, hout⟩
  intro p hp
  rw [← p.value?_settled]
  exact hin p.settled (List.mem_map_of_mem hp)

/-! ## Binding -/

/-- Only one thing is bound for given arguments. -/
theorem Binds.unique {ps : List Param} {args bound bound' : Dict Json} (h : Binds ps args bound)
    (h' : Binds ps args bound') : bound = bound' := by
  apply Dict.ext_find?
  intro name
  by_cases hname : name ∈ paramNames ps
  · obtain ⟨p, hp, rfl⟩ := mem_paramNames.mp hname
    rw [h.argument p hp, h'.argument p hp]
  · rw [h.no_other name hname, h'.no_other name hname]

section
variable {s : Signature} (hdistinct : (paramNames s.arguments).Nodup) {args : Dict Json}
include hdistinct

/-- What is left over after the walk are the values that belong to no argument. -/
theorem bindAll_of_present (h : absent? s.arguments args = none) :
    ∃ bound, Binds s.arguments args bound ∧ s.bindAll args =
      (unexpected? s.arguments args).elim (.ok bound) fun name => .error (.unexpected name) := by
  obtain ⟨rest, bound, hok, hleft, hin, hout⟩ := bindParams_of_present hdistinct h ∅
  have hrest : rest.keys = args.keys.filter fun name => name ∉ paramNames s.arguments := by
    refine eq_of_ascending rest.keys_ascending (args.keys_ascending.filter _) fun name => ?_
    rw [List.mem_filter, Dict.mem_keys, Dict.mem_keys, Dict.contains, hleft]
    split
    next hname => simp [hname]
    next hname => simp [hname, Dict.contains]
  refine ⟨bound, ⟨hin, hout⟩, ?_⟩
  rw [bindAll_of_ok hok, hrest, List.head?_filter]
  rfl

/-- Refused arguments are refused for that reason. -/
theorem bindAll_of_refusal {fault : ArgumentFault} (h : s.refusal? args = some fault) :
    s.bindAll args = .error fault := by
  unfold refusal? at h
  cases habsent : absent? s.arguments args with
  | some p =>
    rw [habsent] at h
    cases h
    exact bindAll_of_error (bindParams_of_absent hdistinct habsent ∅)
  | none =>
    rw [habsent, Option.map_none, Option.none_or, Option.map_eq_some_iff] at h
    obtain ⟨name, hname, rfl⟩ := h
    obtain ⟨bound, -, hall⟩ := bindAll_of_present hdistinct habsent
    rw [hall, hname]
    rfl

/-- Refused arguments are refused in the name of the callable. -/
theorem bind_of_refusal {fault : ArgumentFault} (h : s.refusal? args = some fault) :
    s.bind args = .error (.invalidArguments s.name fault) := by
  rw [bind, bindAll_of_refusal hdistinct h]
  rfl

/-- Other arguments are bound. -/
theorem bind_of_not_refused (h : s.refusal? args = none) :
    ∃ bound, s.bind args = .ok bound ∧ Binds s.arguments args bound := by
  have hadmits := (s.refusal?_eq_none_iff args).mp h
  obtain ⟨bound, hbinds, hall⟩ :=
    bindAll_of_present hdistinct ((absent?_eq_none_iff s.arguments args).mpr hadmits.1)
  rw [(unexpected?_eq_none_iff s.arguments args).mpr hadmits.2] at hall
  exact ⟨bound, (s.bind_eq_ok_iff args bound).mpr hall, hbinds⟩

/-- What is bound, if binding succeeds, has a value for each argument and for nothing else. -/
theorem bind_eq_ok {bound : Dict Json} (h : s.bind args = .ok bound) :
    s.refusal? args = none ∧ Binds s.arguments args bound ∧
      ∀ name, name ∈ bound.keys ↔ name ∈ paramNames s.arguments := by
  cases hrefusal : s.refusal? args with
  | some fault =>
    rw [bind_of_refusal hdistinct hrefusal] at h
    cases h
  | none =>
    obtain ⟨bound', hb, hbinds⟩ := bind_of_not_refused hdistinct hrefusal
    rw [h] at hb
    cases hb
    exact ⟨rfl, hbinds, ((s.refusal?_eq_none_iff args).mp hrefusal).mem_keys_iff hbinds⟩

/-- Binding succeeds exactly on the arguments that are admitted, and what is bound is determined. -/
theorem bind_eq_ok_iff_binds (bound : Dict Json) :
    s.bind args = .ok bound ↔ Admits s.arguments args ∧ Binds s.arguments args bound := by
  constructor
  · intro h
    obtain ⟨hrefusal, hbinds, -⟩ := bind_eq_ok hdistinct h
    exact ⟨(s.refusal?_eq_none_iff args).mp hrefusal, hbinds⟩
  · rintro ⟨hadmits, hbinds⟩
    obtain ⟨bound', h, hbinds'⟩ :=
      bind_of_not_refused hdistinct ((s.refusal?_eq_none_iff args).mpr hadmits)
    rw [h, hbinds.unique hbinds']

theorem exists_bind_iff_admits : (∃ bound, s.bind args = .ok bound) ↔ Admits s.arguments args := by
  constructor
  · rintro ⟨bound, h⟩
    exact ((bind_eq_ok_iff_binds hdistinct bound).mp h).1
  · intro h
    obtain ⟨bound, hbound, -⟩ :=
      bind_of_not_refused hdistinct ((s.refusal?_eq_none_iff args).mpr h)
    exact ⟨bound, hbound⟩

end

end Signature

end Toolbox
