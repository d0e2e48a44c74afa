import Toolbox.Proofs.Schema.Shape
import Toolbox.Proofs.Signature.Faults
import Toolbox.Signature

/-!
# The schema of a signature

`trySchema` adds the arguments one after the other and stops at the first fault.  Arguments without
a fault are all added (`addArguments_append`), so the schema is then the fold over the arguments,
described by the summary; otherwise the error is the first fault (`trySchema_eq_ok_iff`,
`trySchema_eq_error_iff`).

The fold is known through its readers: each argument is a property with its default, and the
arguments without one are required, in order.

Whatever faults a signature has, the schema derived from it is made from the empty object schema by
adding arguments and setting a description (`schema_induction`).  So it is always the schema of an
object that has every name it requires (`schema_describesObject`).
-/

namespace Toolbox

namespace Param

/-- The property of an argument, with its description and its default. -/
def property (docs : DocComment) (p : Param) : Schema :=
  match p.fallback with
  | some value => (Signature.propertySchema docs p).value.withDefault value
  | none => (Signature.propertySchema docs p).value

/-- The property of an argument is the schema of its type, with its description or else the one in
the documentation, and with its default. -/
theorem property_eq (docs : DocComment) (p : Param) :
    p.property docs =
      ((Schema.ofType p.type).value.setDescription (p.description <|> docs.param p.name)).setDefault
        p.fallback := by
  obtain ⟨hdescription, hdefault⟩ := Schema.ofType_unannotated p.type
  have hschema : (Signature.propertySchema docs p).value =
      (Schema.ofType p.type).value.setDescription (p.description <|> docs.param p.name) := by
    rw [Signature.propertySchema, Logged.value_bind]
    cases p.description <|> docs.param p.name with
    | none => exact (Schema.setDescription_eq_self hdescription).symm
    | some description => rfl
  rw [property, hschema]
  cases p.fallback with
  | none =>
    have hnone : ((Schema.ofType p.type).value.setDescription
        (p.description <|> docs.param p.name)).default = none := hdefault
    exact (Schema.setDefault_eq_self hnone).symm
  | some value => rfl

end Param

/-- Adds the property of an argument, required if it has no default. -/
def Schema.withArgument (docs : DocComment) (n : Schema) (p : Param) : Schema :=
  n.withProperty p.name (p.property docs) p.fallback.isNone

namespace Signature

/-! ## The walk -/

/-- Adding arguments stops at a fault of the first one, or else adds it and goes on. -/
theorem addArguments_cons (docs : DocComment) (index : Nat) (seen : List String) (n : Schema)
    (p : Param) (ps : List Param) :
    (addArguments docs index seen n (p :: ps)).value =
      match p.schemaFault? index seen with
      | some cause => .error cause
      | none => (addArguments docs (index + 1) (p.name :: seen) (n.withArgument docs p) ps).value := by
  have hadd : n.withArgument docs p = n.withProperty p.name (p.property docs) p.fallback.isNone :=
    rfl
  rw [addArguments, Param.schemaFault?, hadd, Param.property]
  split
  next hblank =>
    rw [if_pos (Text.isBlankText_iff.mp hblank)]
    rfl
  next hblank =>
    rw [if_neg fun h => hblank (Text.isBlankText_iff.mpr h)]
    split
    · rfl
    · rw [Logged.value_bind, Param.defaultValue, Param.fallback, Param.defaultFault?]
      cases p.default with
      | none => rfl
      | some d => cases d <;> rfl

/-- Arguments without a fault are all added, and the walk goes on behind them. -/
theorem addArguments_append (docs : DocComment) (n : Schema) {before : List Param}
    (h : Faultless before) (after : List Param) :
    (addArguments docs 0 [] n (before ++ after)).value =
      (addArguments docs before.length (paramNames before).reverse
        (before.foldl (Schema.withArgument docs) n) after).value := by
  induction before using List.reverseRecOn generalizing after with
  | nil => rfl
  | append_singleton before p ih =>
    obtain ⟨hbefore, hp⟩ := (faultless_concat_iff before p).mp h
    rw [List.append_assoc, List.singleton_append, ih hbefore, addArguments_cons,
      Param.schemaFault?_reverse, hp]
    simp [paramNames]

theorem description_foldl (docs : DocComment) (n : Schema) (ps : List Param) :
    (ps.foldl (Schema.withArgument docs) n).description = n.description := by
  induction ps generalizing n with
  | nil => rfl
  | cons p ps ih => exact ih _

/-- The summary describes what the walk ends with. -/
theorem value_trySchema (s : Signature) :
    s.trySchema.value = (addArguments s.docComment 0 [] .object s.arguments).value.map
      fun n => s.docComment.summary.elim n n.withDescription := by
  rw [trySchema, Logged.value_bind]
  cases (addArguments s.docComment 0 [] .object s.arguments).value with
  | error cause => rfl
  | ok n => cases s.docComment.summary <;> rfl

/-- From arguments without a fault a schema is derived. -/
theorem trySchema_of_faultless {s : Signature} (h : Faultless s.arguments) :
    s.trySchema.value =
      .ok ((s.arguments.foldl (Schema.withArgument s.docComment) .object).setDescription
        s.docComment.summary) := by
  have hadd := addArguments_append s.docComment .object h []
  rw [List.append_nil, addArguments] at hadd
  rw [value_trySchema, hadd]
  cases s.docComment.summary with
  | some summary => rfl
  | none =>
    have hnone := description_foldl s.docComment .object s.arguments
    exact congrArg Except.ok (Schema.setDescription_eq_self hnone).symm

/-- No schema is derived behind the first fault. -/
theorem trySchema_of_firstFault {s : Signature} {cause : SchemaError}
    (h : FirstFault s.arguments cause) : s.trySchema.value = .error cause := by
  obtain ⟨before, p, after, hargs, hbefore, hfault⟩ := h
  rw [value_trySchema, hargs, addArguments_append _ _ hbefore, addArguments_cons,
    Param.schemaFault?_reverse, hfault]
  rfl

theorem trySchema_eq_error_iff (s : Signature) (cause : SchemaError) :
    s.trySchema.value = .error cause ↔ FirstFault s.arguments cause := by
  refine ⟨fun h => ?_, trySchema_of_firstFault⟩
  rcases faultless_or_firstFault s.arguments with hnone | ⟨cause', hfault⟩
  · rw [trySchema_of_faultless hnone] at h
    cases h
  · rw [trySchema_of_firstFault hfault] at h
    cases h
    exact hfault

theorem trySchema_eq_ok_iff (s : Signature) (n : Schema) :
    s.trySchema.value = .ok n ↔ Faultless s.arguments ∧
      n = (s.arguments.foldl (Schema.withArgument s.docComment) .object).setDescription
        s.docComment.summary := by
  constructor
  · intro h
    rcases faultless_or_firstFault s.arguments with hnone | ⟨cause, hfault⟩
    · rw [trySchema_of_faultless hnone] at h
      cases h
      exact ⟨hnone, rfl⟩
    · rw [trySchema_of_firstFault hfault] at h
      cases h
  · rintro ⟨hnone, rfl⟩
    exact trySchema_of_faultless hnone

/-! ## Readers of the result -/

section
variable (docs : DocComment)

theorem property_foldl_of_not_mem (n : Schema) (ps : List Param) (name : String)
    (h : name ∉ paramNames ps) :
    (ps.foldl (Schema.withArgument docs) n).property name = n.property name := by
  induction ps generalizing n with
  | nil => rfl
  | cons p ps ih =>
    rw [paramNames, List.map_cons, List.mem_cons, not_or] at h
    rw [List.foldl_cons, ih _ h.2, Schema.withArgument, Schema.property_withProperty, if_neg h.1]

theorem property_foldl_of_mem (n : Schema) (ps : List Param) (hdistinct : (paramNames ps).Nodup)
    (p : Param) (hp : p ∈ ps) :
    (ps.foldl (Schema.withArgument docs) n).property p.name = some (p.property docs) := by
  induction ps generalizing n with
  | nil => cases hp
  | cons q ps ih =>
    rw [nodup_paramNames_cons] at hdistinct
    rw [List.foldl_cons]
    rcases List.mem_cons.mp hp with rfl | hp
    · rw [property_foldl_of_not_mem docs _ ps p.name (not_mem_paramNames.mpr hdistinct.1),
        Schema.withArgument, Schema.property_withProperty, if_pos rfl]
    · exact ih _ hdistinct.2 hp

theorem requiredNames_foldl (n : Schema) (ps : List Param) (hdistinct : (paramNames ps).Nodup)
    (hnew : ∀ p ∈ ps, p.name ∉ n.requiredNames) :
    (ps.foldl (Schema.withArgument docs) n).requiredNames =
      n.requiredNames ++ paramNames (ps.filter (·.fallback.isNone)) := by
  induction ps generalizing n with
  | nil => simp [paramNames]
  | cons p ps ih =>
    rw [List.forall_mem_cons] at hnew
    rw [nodup_paramNames_cons] at hdistinct
    rw [List.foldl_cons]
    cases hf : p.fallback with
    | none =>
      have hadd : (n.withArgument docs p).requiredNames = n.requiredNames ++ [p.name] := by
        rw [Schema.withArgument, hf, Option.isNone_none, Schema.requiredNames_withProperty_true,
          if_neg hnew.1]
      rw [ih _ hdistinct.2 ?_, hadd, List.filter_cons_of_pos (by simp [hf])]
      · simp [paramNames]
      · intro q hq
        rw [hadd, List.mem_append, List.mem_singleton, not_or]
        exact ⟨hnew.2 q hq, hdistinct.1 q hq⟩
    | some value =>
      have hadd : (n.withArgument docs p).requiredNames = n.requiredNames := by
        rw [Schema.withArgument, hf, Option.isNone_some, Schema.requiredNames_withProperty_false]
      rw [ih _ hdistinct.2 ?_, hadd, List.filter_cons_of_neg (by simp [hf])]
      rw [hadd]
      exact hnew.2

theorem sorted_foldl {n : Schema} (h : n.Sorted) (ps : List Param) :
    (ps.foldl (Schema.withArgument docs) n).Sorted := by
  induction ps generalizing n with
  | nil => exact h
  | cons p ps ih => exact ih (h.withProperty p.name _ _)

end

/-- What a schema says about a list of arguments. -/
structure Describes (docs : DocComment) (n : Schema) (ps : List Param) : Prop where
  property : ∀ p ∈ ps, n.property p.name = some (p.property docs)
  no_other : ∀ name, name ∉ paramNames ps → n.property name = none
  required : n.requiredNames = paramNames (ps.filter (·.fallback.isNone))
  sorted : n.Sorted

/-- A schema that is derived describes the arguments. -/
theorem describes_of_trySchema {s : Signature} {n : Schema} (h : s.trySchema.value = .ok n) :
    Describes s.docComment n s.arguments := by
  obtain ⟨hargs, rfl⟩ := (s.trySchema_eq_ok_iff n).mp h
  exact
    { property := property_foldl_of_mem _ _ _ hargs.distinct
      no_other := fun name hname => property_foldl_of_not_mem _ _ _ name hname
      required := requiredNames_foldl _ _ _ hargs.distinct fun _ _ hm => nomatch hm
      sorted := sorted_foldl _ Schema.sorted_object _ }

/-- A schema is derived from every valid signature with representable defaults, and it describes the
arguments. -/
theorem trySchema_describes {s : Signature} (h : s.WellFormed)
    (hdefaults : ∀ p ∈ s.arguments, p.Representable) :
    ∃ n, s.trySchema.value = .ok n ∧ Describes s.docComment n s.arguments := by
  have hn := trySchema_of_faultless ⟨h.arguments_nonblank, h.arguments_distinct, hdefaults⟩
  exact ⟨_, hn, describes_of_trySchema hn⟩

theorem Describes.mem_propertyNames {docs : DocComment} {n : Schema} {ps : List Param}
    (h : Describes docs n ps) (name : String) : name ∈ n.propertyNames ↔ name ∈ paramNames ps := by
  rw [Schema.mem_propertyNames]
  constructor
  · intro hsome
    apply Classical.byContradiction
    intro hname
    rw [h.no_other name hname] at hsome
    cases hsome
  · intro hname
    obtain ⟨p, hp, rfl⟩ := mem_paramNames.mp hname
    rw [h.property p hp]
    rfl

end Signature

namespace Signature

/-- What holds of the empty object schema, and still holds when an argument is added or a
description is set, holds of every derived schema. -/
theorem schema_induction {Inv : Schema → Prop} (s : Signature) (hobject : Inv .object)
    (hargument : ∀ n p, Inv n → Inv (n.withArgument s.docComment p))
    (hdescription : ∀ n description, Inv n → Inv (n.withDescription description)) :
    Inv s.schema.value := by
  have hfold : Inv (s.arguments.foldl (Schema.withArgument s.docComment) .object) :=
    List.foldlRecOn _ _ hobject fun n hn p _ => hargument n p hn
  rw [schema, Logged.value_bind]
  cases htry : s.trySchema.value with
  | error cause => exact hobject
  | ok m =>
    show Inv m
    obtain ⟨-, rfl⟩ := (s.trySchema_eq_ok_iff m).mp htry
    cases s.docComment.summary with
    | some summary => exact hdescription _ summary hfold
    | none =>
      have hnone := description_foldl s.docComment .object s.arguments
      exact (Schema.setDescription_eq_self hnone).symm ▸ hfold

/-- A signature without a schema gets the permissive one. -/
theorem schema_of_trySchema_error {s : Signature} {cause : SchemaError}
    (h : s.trySchema.value = .error cause) : s.schema.value = .permissive := by
  rw [schema, Logged.value_bind, h]
  rfl

end Signature

end Toolbox
