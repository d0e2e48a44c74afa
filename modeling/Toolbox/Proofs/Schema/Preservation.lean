import Toolbox.Proofs.Schema.Meaning

/-!
# The schema of a type means what the type means

The schema of a type accepts exactly the values of the type (`accepts_ofType`), by induction on the
type, as long as each list of literals is of one kind.  Such a list has a kind in common, which
admits each literal (`admits_of_commonKind`); a mixed list has none and is advertised as strings.
-/

namespace Toolbox.Schema

/-! ## Kinds of literals -/

theorem admits_number_of_integer {v : Json} (h : SchemaKind.integer.admits v = true) :
    SchemaKind.number.admits v = true := by
  revert h
  unfold SchemaKind.admits
  cases v <;> simp

/-- The kind that two literal kinds share admits what either admits. -/
theorem admits_of_joinKinds {a b k : SchemaKind} (h : joinKinds a b = some k) (v : Json)
    (hv : a.admits v = true ∨ b.admits v = true) : k.admits v = true := by
  unfold joinKinds at h
  split at h
  next hab =>
    cases h
    subst hab
    exact hv.elim id id
  next =>
    split at h
    next =>
      cases h
      exact hv.elim admits_number_of_integer id
    next =>
      cases h
      exact hv.elim id admits_number_of_integer
    next => cases h

theorem admits_of_literalKind {v : Json} {k : SchemaKind} (h : literalKind v = some k) :
    k.admits v = true := by
  unfold literalKind at h
  split at h <;> cases h <;> rfl

theorem admits_of_joinLiterals (vs : List Json) {a k : SchemaKind}
    (h : joinLiterals a vs = some k) :
    (∀ v, a.admits v = true → k.admits v = true) ∧ ∀ v ∈ vs, k.admits v = true := by
  induction vs generalizing a with
  | nil =>
    cases h
    exact ⟨fun _ hv => hv, fun _ hv => nomatch hv⟩
  | cons w ws ih =>
    rw [joinLiterals] at h
    obtain ⟨b, hb, h⟩ := Option.bind_eq_some_iff.mp h
    obtain ⟨c, hc, h⟩ := Option.bind_eq_some_iff.mp h
    obtain ⟨hkeep, hrest⟩ := ih h
    refine ⟨fun v hv => hkeep v (admits_of_joinKinds hc v (Or.inl hv)), ?_⟩
    rw [List.forall_mem_cons]
    exact ⟨hkeep w (admits_of_joinKinds hc w (Or.inr (admits_of_literalKind hb))), hrest⟩

/-- The common kind of literals admits each of them. -/
theorem admits_of_commonKind {vs : List Json} {k : SchemaKind} (h : commonKind vs = some k) :
    ∀ v ∈ vs, k.admits v = true := by
  cases vs with
  | nil => cases h
  | cons w ws =>
    rw [commonKind] at h
    obtain ⟨a, ha, h⟩ := Option.bind_eq_some_iff.mp h
    obtain ⟨hkeep, hrest⟩ := admits_of_joinLiterals ws h
    rw [List.forall_mem_cons]
    exact ⟨hkeep w (admits_of_literalKind ha), hrest⟩

theorem joinLiterals_of_forall {k : SchemaKind} {vs : List Json}
    (h : ∀ v ∈ vs, literalKind v = some k) : joinLiterals k vs = some k := by
  induction vs with
  | nil => rfl
  | cons w ws ih =>
    rw [List.forall_mem_cons] at h
    have hjoin : joinKinds k k = some k := if_pos rfl
    simp [joinLiterals, h.1, hjoin, ih h.2]

/-- The kinds of numbers. -/
def Numeric (k : SchemaKind) : Prop := k = .integer ∨ k = .number

theorem literalKind_number (n : JsonNumber) : ∃ k, literalKind (.number n) = some k ∧ Numeric k := by
  cases n with
  | int n => exact ⟨.integer, rfl, Or.inl rfl⟩
  | real bits => exact ⟨.number, rfl, Or.inr rfl⟩

theorem joinKinds_numeric {a b : SchemaKind} (ha : Numeric a) (hb : Numeric b) :
    ∃ k, joinKinds a b = some k ∧ Numeric k := by
  rcases ha with rfl | rfl
  · rcases hb with rfl | rfl
    · exact ⟨.integer, rfl, Or.inl rfl⟩
    · exact ⟨.number, rfl, Or.inr rfl⟩
  · rcases hb with rfl | rfl
    · exact ⟨.number, rfl, Or.inr rfl⟩
    · exact ⟨.number, rfl, Or.inr rfl⟩

/-- Integers and numbers always have a kind in common. -/
theorem joinLiterals_of_numbers {a : SchemaKind} (ha : Numeric a) {vs : List Json}
    (h : ∀ v ∈ vs, ∃ n, v = .number n) : ∃ k, joinLiterals a vs = some k := by
  induction vs generalizing a with
  | nil => exact ⟨a, rfl⟩
  | cons w ws ih =>
    rw [List.forall_mem_cons] at h
    obtain ⟨⟨n, rfl⟩, h⟩ := h
    obtain ⟨b, hb, hnumeric⟩ := literalKind_number n
    obtain ⟨c, hc, hnumeric⟩ := joinKinds_numeric ha hnumeric
    obtain ⟨k, hk⟩ := ih hnumeric h
    refine ⟨k, ?_⟩
    simp [joinLiterals, hb, hc, hk]

/-- Literals of one kind have a kind in common. -/
theorem commonKind_of_oneKind {w : Json} {ws : List Json} (h : ParamType.OneKind (w :: ws)) :
    ∃ k, commonKind (w :: ws) = some k := by
  have hsame : ∀ k, (∀ v ∈ w :: ws, literalKind v = some k) → commonKind (w :: ws) = some k := by
    intro k hall
    rw [List.forall_mem_cons] at hall
    rw [commonKind, hall.1]
    exact joinLiterals_of_forall hall.2
  rcases h with h | h | h | h
  · refine ⟨.string, hsame _ fun v hv => ?_⟩
    obtain ⟨s, rfl⟩ := h v hv
    rfl
  · rw [List.forall_mem_cons] at h
    obtain ⟨⟨n, rfl⟩, h⟩ := h
    obtain ⟨a, ha, hnumeric⟩ := literalKind_number n
    obtain ⟨k, hk⟩ := joinLiterals_of_numbers hnumeric h
    refine ⟨k, ?_⟩
    rw [commonKind, ha]
    exact hk
  · refine ⟨.boolean, hsame _ fun v hv => ?_⟩
    obtain ⟨b, rfl⟩ := h v hv
    rfl
  · refine ⟨.null, hsame _ fun v hv => ?_⟩
    obtain rfl := h v hv
    rfl

theorem accepts_ofLiterals {vs : List Json} (h : ParamType.OneKind vs) (v : Json) :
    (ofLiterals vs).accepts v = true ↔ v ∈ vs := by
  rw [ofLiterals, accepts_enumeration]
  refine ⟨And.right, fun hv => ⟨?_, hv⟩⟩
  cases vs with
  | nil => cases hv
  | cons w ws =>
    obtain ⟨k, hk⟩ := commonKind_of_oneKind h
    rw [hk]
    exact admits_of_commonKind hk v hv

/-! ## Schemas of types -/

theorem accepts_ofScalar (kind : Scalar) (v : Json) :
    (ofScalar kind).accepts v = true ↔ v ∈ kind.values := by
  cases kind with
  | text =>
    rw [show ofScalar .text = ofKind .string from rfl, accepts_ofKind]
    cases v <;> simp [SchemaKind.admits, Scalar.values]
  | integer =>
    rw [show ofScalar .integer = ofKind .integer from rfl, accepts_ofKind]
    cases v with
    | number n => cases n <;> simp [SchemaKind.admits, Scalar.values]
    | null | bool | string | array | object => simp [SchemaKind.admits, Scalar.values]
  | real =>
    rw [show ofScalar .real = ofKind .number from rfl, accepts_ofKind]
    cases v <;> simp [SchemaKind.admits, Scalar.values]
  | boolean =>
    rw [show ofScalar .boolean = ofKind .boolean from rfl, accepts_ofKind]
    cases v <;> simp [SchemaKind.admits, Scalar.values]

/-- The schema of a union accepts the values of the union, if the schemas of its members accept the
values of the members. -/
theorem accepts_ofType_union {ts : List ParamType} {v : Json}
    (h : ∀ t ∈ ts, (ofType t).value.accepts v = true ↔ v ∈ t.values) :
    (ofType (.union ts)).value.accepts v = true ↔ v ∈ (ParamType.union ts).values := by
  rw [ofType_union, ParamType.mem_values_union]
  by_cases hempty : ts = []
  · subst hempty
    simp [accepts_any]
  · have hmembers := ParamType.exists_mem_values_iff ts v
    simp only [hempty, false_or]
    split
    next hnone =>
      -- all members are null, and there is one
      have hall : ∀ t ∈ ts, t.isNull = true := by
        simpa [List.filter_eq_nil_iff] using hnone
      obtain ⟨t, ht⟩ := List.exists_mem_of_ne_nil ts hempty
      have hany : ts.any (·.isNull) = true := List.any_eq_true.mpr ⟨t, ht, hall t ht⟩
      rw [hmembers, hnone, if_neg (by simpa using hempty), accepts_null]
      simp [hany]
    next t hone =>
      have ht : t ∈ ts := List.filter_sublist.subset (hone ▸ List.mem_singleton_self t)
      rw [hmembers, hone]
      split
      next hany => simp [accepts_orNull, h t ht, hany]
      next hany => simp [h t ht, hany]
    next =>
      rw [accepts_union]
      constructor
      · rintro ⟨n, hn, hv⟩
        obtain ⟨t, ht, rfl⟩ := List.mem_map.mp hn
        exact ⟨t, ht, (h t ht).mp hv⟩
      · rintro ⟨t, ht, hv⟩
        exact ⟨_, List.mem_map.mpr ⟨t, ht, rfl⟩, (h t ht).mpr hv⟩

/-- The schema of a type accepts a value exactly if the value is one of the type, provided that each
list of literals in the type is of one kind. -/
theorem accepts_ofType (t : ParamType) (hliterals : ∀ vs, t.HasLiterals vs → ParamType.OneKind vs)
    (v : Json) : (ofType t).value.accepts v = true ↔ v ∈ t.values := by
  induction t using ParamType.induction generalizing v with
  | null => exact accepts_null v
  | optional t ih =>
    show (ofType t).value.orNull.accepts v = true ↔ v = .null ∨ v ∈ t.values
    rw [accepts_orNull, ih fun vs hvs => hliterals vs (.optional hvs)]
  | union ts ih =>
    apply accepts_ofType_union
    intro t ht
    exact ih t ht (fun vs hvs => hliterals vs (.union ht hvs)) v
  | sequence items ih =>
    cases items with
    | none =>
      show (array any).accepts v = true ↔ ∃ vs, v = .array vs
      simp [accepts_array, accepts_any]
    | some t =>
      show (array (ofType t).value).accepts v = true ↔ ∃ vs, v = .array vs ∧ ∀ w ∈ vs, w ∈ t.values
      rw [accepts_array]
      simp only [ih t rfl fun vs hvs => hliterals vs (.sequence hvs)]
  | mapping values ih =>
    cases values with
    | none =>
      show (map any).accepts v = true ↔ ∃ ms, v = .object ms
      simp [accepts_map, accepts_any]
    | some t =>
      show (map (ofType t).value).accepts v = true ↔ ∃ ms, v = .object ms ∧ ∀ m ∈ ms, m.2 ∈ t.values
      rw [accepts_map]
      simp only [ih t rfl fun vs hvs => hliterals vs (.mapping hvs)]
  | scalar kind => exact accepts_ofScalar kind v
  | literal vs => exact accepts_ofLiterals (hliterals vs .here) v
  | any => exact iff_of_true (accepts_any v) (Set.mem_univ v)
  | unknown name =>
    show string.accepts v = true ↔ ∃ s, v = .string s
    rw [show string = ofKind .string from rfl, accepts_ofKind]
    cases v <;> simp [SchemaKind.admits]

/-- A limit for each of some names, out of a whole and a binary64 number, or null for no limits. -/
def limits : ParamType :=
  .optional (.union [.null, .mapping (some (.literal [.number (.int 1), .number (.real 1)]))])

theorem accepts_ofType_limits :
    (∀ vs, limits.HasLiterals vs → ParamType.OneKind vs) ∧
      ((ofType limits).value.accepts (.object [("cpu", .number (.int 1))]) = true ↔
        .object [("cpu", .number (.int 1))] ∈ limits.values) := by
  have hliterals : ∀ vs, limits.HasLiterals vs → ParamType.OneKind vs := by
    intro vs hvs
    -- the only literals stand in the values of the mapping
    cases hvs with
    | optional hvs =>
      cases hvs with
      | union ht hvs =>
        rcases List.mem_pair.mp ht with rfl | rfl
        · cases hvs
        · cases hvs with
          | mapping hvs =>
            cases hvs
            exact Or.inr (Or.inl (by simp))
  exact ⟨hliterals, accepts_ofType limits hliterals _⟩

end Toolbox.Schema
