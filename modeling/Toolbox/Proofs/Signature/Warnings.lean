import Toolbox.Proofs.Signature.Schema

/-!
# Warnings of deriving a schema

Describing a type warns about each of its unknown leaves once, from left to right
(`events_ofType`).  Deriving the schema of a signature warns about the leaves of the types that are
described, which are those up to the first fault of an argument (`Signature.Described`), and then
that there is no schema, if there is none (`schema_warns`).
-/

namespace Toolbox

namespace ParamType

mutual

/-- Names of the unknown leaves of a type, from left to right. -/
def unknownNames : ParamType → List String
  | .optional inner => unknownNames inner
  | .union members => unknownNamesOf members
  | .sequence (some items) => unknownNames items
  | .mapping (some values) => unknownNames values
  | .unknown name => [name]
  | .null | .sequence none | .mapping none | .scalar _ | .literal _ | .any => []

/-- Names of the unknown leaves of several types. -/
def unknownNamesOf : List ParamType → List String
  | [] => []
  | t :: ts => unknownNames t ++ unknownNamesOf ts

end

theorem unknownNamesOf_eq_flatMap (ts : List ParamType) :
    unknownNamesOf ts = ts.flatMap unknownNames := by
  induction ts with
  | nil => rfl
  | cons t ts ih => rw [unknownNamesOf, ih, List.flatMap_cons]

/-- The members of a union that are null have no leaves. -/
theorem unknownNames_union (ts : List ParamType) :
    (union ts).unknownNames = (ts.filter (!·.isNull)).flatMap unknownNames := by
  rw [unknownNames, unknownNamesOf_eq_flatMap]
  induction ts with
  | nil => rfl
  | cons t ts ih =>
    rw [List.flatMap_cons, ih]
    cases t with
    | null => rfl
    | optional | union | sequence | mapping | scalar | literal | any | unknown => rfl

/-- The warnings about a type: one for each unknown leaf. -/
def warnings (t : ParamType) : List Event := t.unknownNames.map .unsupportedType

end ParamType

namespace Schema

theorem events_collect (ns : List (Logged Schema)) :
    (collect ns).events = ns.flatMap (·.events) := by
  induction ns with
  | nil => rfl
  | cons n ns ih =>
    show n.events ++ ((collect ns).events ++ []) = _
    rw [List.append_nil, ih, List.flatMap_cons]

/-- Describing a type raises the warnings about its unknown leaves, and nothing else. -/
theorem events_ofType (t : ParamType) : (ofType t).events = t.warnings := by
  induction t using ParamType.induction with
  | null | scalar | literal | any | unknown => rfl
  | optional t ih => rwa [ofType, Logged.events_map]
  | union ts ih =>
    have hmembers : (ts.flatMap fun t => (ofType t).events) = (ParamType.union ts).warnings := by
      rw [ParamType.warnings, ParamType.unknownNames, ParamType.unknownNamesOf_eq_flatMap,
        List.map_flatMap]
      rw [List.flatMap_def, List.flatMap_def, List.map_congr_left ih]
      rfl
    cases hfilter : ts.filter (!·.isNull) with
    | nil =>
      rw [ofType_union_eq, hfilter, ParamType.warnings, ParamType.unknownNames_union, hfilter]
      rfl
    | cons t rest =>
      cases rest with
      | nil =>
        have ht : t ∈ ts := (List.mem_filter.mp (hfilter ▸ List.mem_singleton_self t)).1
        have hone : (ParamType.union ts).warnings = t.warnings := by
          rw [ParamType.warnings, ParamType.unknownNames_union, hfilter, List.flatMap_singleton,
            ParamType.warnings]
        rw [ofType_union_eq, hfilter, hone, ← ih t ht]
        show (if ts.any (·.isNull) = true then orNull <$> ofType t else ofType t).events = _
        split
        next => rw [Logged.events_map]
        next => rfl
      | cons t' rest =>
        rw [ofType_union_eq, hfilter, ← hmembers]
        show (union <$> collect (ts.map ofType)).events = _
        rw [Logged.events_map, events_collect, List.flatMap_map]
  | sequence items ih =>
    cases items with
    | none => rfl
    | some t =>
      rw [ofType, Logged.events_map]
      exact ih t rfl
  | mapping values ih =>
    cases values with
    | none => rfl
    | some t =>
      rw [ofType, Logged.events_map]
      exact ih t rfl

end Schema

namespace Signature

/-- The warnings about the types of arguments, in the order of their declaration. -/
def warnings (ps : List Param) : List Event := ps.flatMap (·.type.warnings)

/-- Which of the arguments have their types described: all, if none has a fault, and else those
before the first one that has, and that one too if the fault is its default. -/
inductive Described : List Param → List Param → Prop
  | all {ps} (h : Faultless ps) : Described ps ps
  | misnamed {before p after} (hbefore : Faultless before)
      (hname : Text.IsBlankText p.name ∨ p.name ∈ paramNames before) :
      Described (before ++ p :: after) before
  | unusable {before p after reason} (hbefore : Faultless before)
      (hblank : ¬ Text.IsBlankText p.name) (hnew : p.name ∉ paramNames before)
      (hdefault : p.default = some (.unrepresentable reason)) :
      Described (before ++ p :: after) (before ++ [p])

theorem exists_described (ps : List Param) : ∃ typed, Described ps typed := by
  rcases faultless_or_firstFault ps with h | ⟨cause, before, p, after, rfl, hbefore, hfault⟩
  · exact ⟨ps, .all h⟩
  · by_cases hname : Text.IsBlankText p.name ∨ p.name ∈ paramNames before
    · exact ⟨before, .misnamed hbefore hname⟩
    · rw [not_or] at hname
      obtain ⟨hblank, hnew⟩ := hname
      rw [Param.schemaFault?, if_neg (by simp [hblank]), if_neg hnew,
        Param.defaultFault?_eq_some_iff] at hfault
      obtain ⟨reason, hdefault, -⟩ := hfault
      exact ⟨before ++ [p], .unusable hbefore hblank hnew hdefault⟩

section
variable (docs : DocComment) (index : Nat) (seen : List String) (n : Schema) (p : Param)
  (ps : List Param)

theorem events_propertySchema : (propertySchema docs p).events = p.type.warnings := by
  rw [propertySchema, Logged.events_bind, Schema.events_ofType]
  split <;> exact List.append_nil _

/-- An argument of a faulty name is not described. -/
theorem events_addArguments_of_misnamed
    (hname : Text.IsBlankText p.name ∨ p.name ∈ seen) :
    (addArguments docs index seen n (p :: ps)).events = [] := by
  rw [addArguments]
  split
  next => rfl
  next hblank =>
    rw [if_pos (hname.resolve_left fun h => hblank (Text.isBlankText_iff.mpr h))]
    rfl

/-- An argument is described before its default is looked at. -/
theorem events_addArguments_of_named (hblank : ¬ Text.IsBlankText p.name)
    (hnew : p.name ∉ seen) :
    (addArguments docs index seen n (p :: ps)).events = p.type.warnings ++
      match p.defaultFault? with
      | some _ => []
      | none =>
        (addArguments docs (index + 1) (p.name :: seen) (n.withArgument docs p) ps).events := by
  have hadd : n.withArgument docs p = n.withProperty p.name (p.property docs) p.fallback.isNone :=
    rfl
  rw [addArguments, if_neg fun h => hblank (Text.isBlankText_iff.mp h), if_neg hnew,
    Logged.events_bind, events_propertySchema, hadd, Param.property, Param.defaultValue,
    Param.fallback, Param.defaultFault?]
  cases p.default with
  | none => rfl
  | some d => cases d <;> rfl

end

/-- Arguments without a fault are all described, and the walk goes on behind them. -/
theorem events_addArguments_append (docs : DocComment) (n : Schema) {before : List Param}
    (h : Faultless before) (after : List Param) :
    (addArguments docs 0 [] n (before ++ after)).events =
      warnings before ++ (addArguments docs before.length (paramNames before).reverse
        (before.foldl (Schema.withArgument docs) n) after).events := by
  induction before using List.reverseRecOn generalizing after with
  | nil => rfl
  | append_singleton before p ih =>
    obtain ⟨hbefore, hp⟩ := (faultless_concat_iff before p).mp h
    rw [Param.schemaFault?_eq_none_iff, ← Param.defaultFault?_eq_none_iff] at hp
    obtain ⟨hblank, hnew, hdefault⟩ := hp
    rw [List.append_assoc, List.singleton_append, ih hbefore,
      events_addArguments_of_named _ _ _ _ _ _ hblank (by simpa using hnew), hdefault]
    simp [warnings, paramNames]

/-- The events of trying to derive a schema are those of the walk. -/
theorem events_trySchema (s : Signature) :
    s.trySchema.events = (addArguments s.docComment 0 [] .object s.arguments).events := by
  rw [trySchema, Logged.events_bind]
  split <;> exact List.append_nil _

/-- The types that are described are warned about. -/
theorem Described.events_trySchema {s : Signature} {typed : List Param}
    (h : Described s.arguments typed) : s.trySchema.events = warnings typed := by
  rw [Signature.events_trySchema]
  generalize hargs : s.arguments = ps at h
  cases h with
  | all h =>
    have hwalk := events_addArguments_append s.docComment .object h []
    rwa [List.append_nil, addArguments, Logged.events_pure, List.append_nil] at hwalk
  | misnamed hbefore hname =>
    rw [events_addArguments_append _ _ hbefore,
      events_addArguments_of_misnamed _ _ _ _ _ _ (by simpa using hname), List.append_nil]
  | @unusable before p after reason hbefore hblank hnew hdefault =>
    have hfault : p.defaultFault? = some (.unrepresentableDefault p.name reason) := by
      rw [Param.defaultFault?, hdefault]
    rw [events_addArguments_append _ _ hbefore,
      events_addArguments_of_named _ _ _ _ _ _ hblank (by simpa using hnew), hfault]
    simp [warnings]

/-- The event of a schema that cannot be derived. -/
def failures (s : Signature) : List Event :=
  match s.trySchema.value with
  | .ok _ => []
  | .error cause => [.schemaFailed s.name cause]

theorem events_schema (s : Signature) : s.schema.events = s.trySchema.events ++ s.failures := by
  rw [schema, Logged.events_bind, failures]
  cases s.trySchema.value <;> rfl

theorem level_of_mem_warnings {ps : List Param} {e : Event} (h : e ∈ warnings ps) :
    e.level = .warn := by
  obtain ⟨p, -, he⟩ := List.mem_flatMap.mp h
  obtain ⟨name, -, rfl⟩ := List.mem_map.mp he
  rfl

/-- Deriving a schema raises warnings only. -/
theorem level_of_mem_events_schema {s : Signature} {e : Event} (h : e ∈ s.schema.events) :
    e.level = .warn := by
  obtain ⟨typed, htyped⟩ := exists_described s.arguments
  rw [events_schema, htyped.events_trySchema, List.mem_append] at h
  rcases h with h | h
  · exact level_of_mem_warnings h
  · unfold failures at h
    split at h
    next => cases h
    next =>
      obtain rfl := List.mem_singleton.mp h
      rfl

/-- What is warned about.  Describing a type warns about each of its unknown leaves, once and from
left to right, by its name, and raises nothing else.  Deriving the schema of a signature warns about
the types of the arguments that are described, in order, and at the end that it failed, exactly if it
did; all that it raises are warnings.  The arguments are the parameters that are no receivers. -/
theorem schema_warns :
    (∀ t : ParamType, (Schema.ofType t).events = t.unknownNames.map .unsupportedType) ∧
      ∀ s : Signature, s.arguments = s.params.filter (fun p => p.receiver = false) ∧
        (∃ typed, Described s.arguments typed) ∧
        (∀ typed, Described s.arguments typed →
          s.schema.events = (typed.flatMap fun p => p.type.unknownNames.map .unsupportedType) ++
            match s.trySchema.value with
            | .ok _ => []
            | .error cause => [.schemaFailed s.name cause]) ∧
        ∀ e ∈ s.schema.events, e.level = .warn := by
  refine ⟨Schema.events_ofType,
    fun s => ⟨s.arguments_eq, exists_described _, fun typed h => ?_, ?_⟩⟩
  · have hwarned := h.events_trySchema
    have hevents := s.events_schema
    rw [hwarned] at hevents
    exact hevents
  · exact fun e => level_of_mem_events_schema

/-- The argument with the unusable default is described, the one behind it is not. -/
theorem schema_warns_unusable_default :
    let s : Signature :=
      { name := "open"
        params := [{ name := "at", type := .union [.unknown "Path", .null, .optional (.unknown "Url")] },
          { name := "mode", type := .unknown "Mode", default := some (.unrepresentable "opaque") },
          { name := "extra", type := .unknown "Flags" }] }
    s.schema.events = [.unsupportedType "Path", .unsupportedType "Url", .unsupportedType "Mode",
      .schemaFailed "open" (.unrepresentableDefault "mode" "opaque")] := by
  intro s
  have hfailed : s.trySchema.value = .error (.unrepresentableDefault "mode" "opaque") := by
    decide +kernel
  have hfirst : Faultless [s.params[0]] :=
    ⟨by decide +kernel, by decide +kernel, fun p hp reason hdefault => by
      obtain rfl := List.mem_singleton.mp hp
      cases hdefault⟩
  have htyped : Described s.arguments [s.params[0], s.params[1]] :=
    .unusable hfirst (by decide +kernel) (by decide +kernel) rfl
  obtain ⟨-, -, hevents, -⟩ := schema_warns.2 s
  rw [hevents _ htyped, hfailed]
  rfl

end Signature

end Toolbox
