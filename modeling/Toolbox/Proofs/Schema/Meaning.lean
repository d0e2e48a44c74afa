import Mathlib.Data.List.Basic
import Mathlib.Data.Set.Insert
import Mathlib.Tactic.Tauto
import Toolbox.Proofs.Schema.Derive

/-!
# What types and schemas mean

A type is a set of values (`ParamType.values`).  A schema accepts or refuses a value
(`Schema.accepts`): null if it is nullable, and else by the conjunction of what its fields ask for.
-/

namespace Toolbox

/-! ## Values of types -/

/-- The values of a scalar.  An integer is a number that is kept as a word, signed or not; a number
that is kept as binary64 is none, even if it is whole. -/
def Scalar.values : Scalar → Set Json
  | .text => {v | ∃ s, v = .string s}
  | .integer => {v | ∃ n, v = .number (.int n)}
  | .real => {v | ∃ n, v = .number n}
  | .boolean => {v | ∃ b, v = .bool b}

namespace ParamType

mutual

/-- The values of a type.  A union without members excludes nothing; of a type nothing is known
about, a string is expected. -/
def values : ParamType → Set Json
  | .null => {.null}
  | .optional inner => {.null} ∪ inner.values
  | .union [] => Set.univ
  | .union (t :: ts) => t.values ∪ memberValues ts
  | .sequence none => {v | ∃ vs, v = .array vs}
  | .sequence (some items) => {v | ∃ vs, v = .array vs ∧ ∀ w ∈ vs, w ∈ items.values}
  | .mapping none => {v | ∃ ms, v = .object ms}
  | .mapping (some inner) => {v | ∃ ms, v = .object ms ∧ ∀ m ∈ ms, m.2 ∈ inner.values}
  | .scalar kind => kind.values
  | .literal vs => {v | v ∈ vs}
  | .any => Set.univ
  | .unknown _ => {v | ∃ s, v = .string s}

/-- The values of the members of a union. -/
def memberValues : List ParamType → Set Json
  | [] => ∅
  | t :: ts => t.values ∪ memberValues ts

end

/-- Whether a list of literals stands somewhere in a type. -/
inductive HasLiterals (vs : List Json) : ParamType → Prop
  | here : HasLiterals vs (.literal vs)
  | optional {t : ParamType} : HasLiterals vs t → HasLiterals vs (.optional t)
  | union {t : ParamType} {ts : List ParamType} :
      t ∈ ts → HasLiterals vs t → HasLiterals vs (.union ts)
  | sequence {t : ParamType} : HasLiterals vs t → HasLiterals vs (.sequence (some t))
  | mapping {t : ParamType} : HasLiterals vs t → HasLiterals vs (.mapping (some t))

/-- Whether literals are all strings, all numbers, all booleans or all null. -/
def OneKind (vs : List Json) : Prop :=
  (∀ v ∈ vs, ∃ s, v = .string s) ∨ (∀ v ∈ vs, ∃ n, v = .number n) ∨
    (∀ v ∈ vs, ∃ b, v = .bool b) ∨ ∀ v ∈ vs, v = .null

theorem mem_memberValues (ts : List ParamType) (v : Json) :
    v ∈ memberValues ts ↔ ∃ t ∈ ts, v ∈ t.values := by
  induction ts with
  | nil => simp [memberValues]
  | cons t ts ih => rw [memberValues, Set.mem_union, ih, List.exists_mem_cons_iff]

theorem mem_values_union (ts : List ParamType) (v : Json) :
    v ∈ (union ts).values ↔ ts = [] ∨ ∃ t ∈ ts, v ∈ t.values := by
  cases ts with
  | nil => simp [values]
  | cons t ts =>
    rw [values, Set.mem_union, mem_memberValues, List.exists_mem_cons_iff]
    simp

/-- Null members of a union contribute null, the others their values. -/
theorem exists_mem_values_iff (ts : List ParamType) (v : Json) :
    (∃ t ∈ ts, v ∈ t.values) ↔
      (ts.any (·.isNull) = true ∧ v = .null) ∨ ∃ t ∈ ts.filter (!·.isNull), v ∈ t.values := by
  induction ts with
  | nil => simp
  | cons t ts ih =>
    rw [List.exists_mem_cons_iff, ih, List.any_cons]
    by_cases ht : t.isNull = true
    · rw [List.filter_cons_of_neg (by simp [ht])]
      obtain rfl := t.isNull_iff.mp ht
      simp only [values, Set.mem_singleton_iff, isNull, Bool.true_or, true_and]
      tauto
    · rw [List.filter_cons_of_pos (by simp [ht]), List.exists_mem_cons_iff]
      simp only [ht, Bool.false_or]
      tauto

end ParamType

/-! ## Values that a schema accepts -/

/-- Whether a value is of a kind; a union leaves that to its alternatives. -/
def SchemaKind.admits : SchemaKind → Json → Bool
  | .object, .object _ | .array, .array _ | .string, .string _ | .integer, .number (.int _)
  | .number, .number _ | .boolean, .bool _ | .null, .null | .union, _ => true
  | _, _ => false

namespace Schema

mutual

/-- Whether a schema accepts a value: null if it is nullable, and else what each of its constraints
admits.  Named properties are not looked at; schemas of types have none. -/
def accepts : Schema → Json → Bool
  | ⟨kind, _, _, _, items, additional, anyOf, literals, _, nullable⟩, v =>
    nullable.getD false && decide (v = .null) ||
      kind.all (·.admits v) && literals.all (decide <| v ∈ ·) && acceptsItems items v &&
        acceptsMembers additional v && acceptsAlternative anyOf v

/-- Whether every element of an array is accepted. -/
def acceptsItems : Option Schema → Json → Bool
  | some n, .array vs => vs.all fun w => n.accepts w
  | _, _ => true

/-- Whether the value of every member of an object is accepted. -/
def acceptsMembers : Option Schema → Json → Bool
  | some n, .object ms => ms.all fun m => n.accepts m.2
  | _, _ => true

/-- Whether an alternative accepts, if there are alternatives. -/
def acceptsAlternative : Option (List Schema) → Json → Bool
  | none, _ => true
  | some ns, v => acceptsAny ns v

/-- Whether one of the schemas accepts. -/
def acceptsAny : List Schema → Json → Bool
  | [], _ => false
  | n :: ns, v => n.accepts v || acceptsAny ns v

end

theorem acceptsAny_iff (ns : List Schema) (v : Json) :
    acceptsAny ns v = true ↔ ∃ n ∈ ns, n.accepts v = true := by
  induction ns with
  | nil => simp [acceptsAny]
  | cons n ns ih => rw [acceptsAny, Bool.or_eq_true, ih, List.exists_mem_cons_iff]

theorem accepts_orNull (n : Schema) (v : Json) :
    n.orNull.accepts v = true ↔ v = .null ∨ n.accepts v = true := by
  cases n
  simp only [orNull, accepts, Option.getD_some, Bool.true_and, Bool.or_eq_true, Bool.and_eq_true,
    decide_eq_true_eq]
  tauto

theorem accepts_any (v : Json) : any.accepts v = true := by
  simp [any, accepts, acceptsItems, acceptsMembers, acceptsAlternative]

theorem accepts_ofKind (kind : SchemaKind) (v : Json) :
    (ofKind kind).accepts v = kind.admits v := by
  simp [ofKind, accepts, acceptsItems, acceptsMembers, acceptsAlternative]

theorem accepts_array (n : Schema) (v : Json) :
    (array n).accepts v = true ↔ ∃ vs, v = .array vs ∧ ∀ w ∈ vs, n.accepts w = true := by
  cases v <;>
    simp [array, accepts, acceptsItems, acceptsMembers, acceptsAlternative, SchemaKind.admits]

theorem accepts_map (n : Schema) (v : Json) :
    (map n).accepts v = true ↔ ∃ ms, v = .object ms ∧ ∀ m ∈ ms, n.accepts m.2 = true := by
  cases v <;> simp [map, accepts, acceptsItems, acceptsMembers, acceptsAlternative,
    SchemaKind.admits]

theorem accepts_union (ns : List Schema) (v : Json) :
    (union ns).accepts v = true ↔ ∃ n ∈ ns, n.accepts v = true := by
  rw [← acceptsAny_iff]
  simp [union, accepts, acceptsItems, acceptsMembers, acceptsAlternative, SchemaKind.admits]

theorem accepts_enumeration (kind : SchemaKind) (vs : List Json) (v : Json) :
    (enumeration kind vs).accepts v = true ↔ kind.admits v = true ∧ v ∈ vs := by
  simp [enumeration, accepts, acceptsItems, acceptsMembers, acceptsAlternative]

theorem accepts_null (v : Json) : null.accepts v = true ↔ v = .null := by
  rw [show null = ofKind .null from rfl, accepts_ofKind]
  cases v <;> simp [SchemaKind.admits]

end Schema

end Toolbox
