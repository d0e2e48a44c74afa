import Toolbox.Proofs.Registry.Admission
import Toolbox.Proofs.Schema.RoundTrip

/-!
# Schemas as they are built

A plan is a tree of calls of the builders (`Schema.Plan`), and every node of the schema that it
builds is built by a part of it (`at?_build`).  A node that is built reflects the calls that set its
properties (`Schema.Reflects`): each property is the one that was set last, and the required names
are those that were ever marked, in the order in which they first were (`Firsts.concat`).  Marking a
name sets the property as well, so what is required is declared, whatever comes later
(`build_reflects`).
-/

namespace Toolbox.Schema

/-! ## Plans -/

/-- How a schema is built: a first schema, and what is then done to it. -/
inductive Plan where
  | any
  | null
  | string
  | integer
  | number
  | boolean
  | object
  | permissive
  | array (items : Plan)
  | map (values : Plan)
  | union (members : List Plan)
  | enumeration (kind : SchemaKind) (literals : List Json)
  | withProperty (plan : Plan) (name : String) (schema : Plan) (required : Bool)
  | withDescription (plan : Plan) (description : String)
  | withDefault (plan : Plan) (default : Json)
  | orNull (plan : Plan)

/-- A call that sets a property of a node. -/
structure PropertyCall where
  name : String
  schema : Schema
  required : Bool

namespace Plan

mutual

/-- The schema that is built. -/
def build : Plan → Schema
  | any => .any
  | null => .null
  | string => .string
  | integer => .integer
  | number => .number
  | boolean => .boolean
  | object => .object
  | permissive => .permissive
  | array items => .array items.build
  | map values => .map values.build
  | union members => .union (buildAll members)
  | enumeration kind literals => .enumeration kind literals
  | withProperty plan name schema required => plan.build.withProperty name schema.build required
  | withDescription plan description => plan.build.withDescription description
  | withDefault plan default => plan.build.withDefault default
  | orNull plan => plan.build.orNull

def buildAll : List Plan → List Schema
  | [] => []
  | plan :: plans => plan.build :: buildAll plans

end

/-- The calls that set the properties of the node itself, in order. -/
def calls : Plan → List PropertyCall
  | withProperty plan name schema required =>
    plan.calls ++ [{ name, schema := schema.build, required }]
  | withDescription plan _ | withDefault plan _ | orNull plan => plan.calls
  | any | null | string | integer | number | boolean | object | permissive | array _ | map _
  | union _ | enumeration .. => []

/-- The plan of the schema that a step leads to. -/
def child? : Plan → Step → Option Plan
  | withProperty plan name schema _, .property key =>
    if key = name then some schema else plan.child? (.property key)
  | withProperty plan _ _ _, s => plan.child? s
  | withDescription plan _, s | withDefault plan _, s | orNull plan, s => plan.child? s
  | array items, .items => some items
  | map values, .additional => some values
  | union members, .alternative index => members[index]?
  | _, _ => none

/-- The plan of the node that a path leads to. -/
def at? (plan : Plan) : List Step → Option Plan
  | [] => some plan
  | s :: path => (plan.child? s).bind (·.at? path)

theorem buildAll_eq_map (plans : List Plan) : buildAll plans = plans.map build := by
  induction plans with
  | nil => rfl
  | cons plan plans ih => rw [buildAll, ih, List.map_cons]

theorem child?_build : ∀ (plan : Plan) (s : Step), plan.build.child? s = (plan.child? s).map build
  | withProperty plan name schema required, s => by
    have ih := child?_build plan s
    cases s with
    | property key =>
      have hset := property_withProperty plan.build name key schema.build required
      show (plan.build.withProperty name schema.build required).property key = _
      rw [hset, child?]
      split
      next => rfl
      next => exact ih
    | items | additional | alternative => exact ih
  | withDescription plan _, s | withDefault plan _, s | orNull plan, s => by
    have ih := child?_build plan s
    cases s <;> exact ih
  | union members, s => by
    cases s with
    | alternative index =>
      show (buildAll members)[index]? = members[index]?.map build
      rw [buildAll_eq_map, List.getElem?_map]
    | property | items | additional => rfl
  | array _, s | map _, s => by cases s <;> rfl
  | any, s | null, s | string, s | integer, s | number, s | boolean, s | object, s | permissive, s
  | enumeration .., s => by cases s <;> rfl

theorem at?_build (plan : Plan) (path : List Step) :
    plan.build.at? path = (plan.at? path).map build := by
  induction path generalizing plan with
  | nil => rfl
  | cons s path ih =>
    rw [Schema.at?, at?, child?_build]
    cases plan.child? s with
    | none => rfl
    | some part => exact ih part

end Plan

/-! ## What a node tells of the calls -/

/-- The names that calls mark as required, call by call. -/
def marks (calls : List PropertyCall) : List String := (calls.filter (·.required)).map (·.name)

/-- The schema that was last set for a name. -/
def lastSet? (calls : List PropertyCall) (name : String) : Option Schema :=
  (calls.filter (·.name == name)).getLast?.map (·.schema)

/-- Whether names are those that have been marked, by the first mark of each. -/
structure Firsts (marks names : List String) : Prop where
  distinct : names.Nodup
  /-- no mark is ever taken off again -/
  mem_iff : ∀ name, name ∈ names ↔ name ∈ marks
  ordered : names.Pairwise fun a b => marks.idxOf a < marks.idxOf b

/-- What a node tells of the calls that set its properties. -/
structure Reflects (calls : List PropertyCall) (n : Schema) : Prop where
  firsts : Firsts (marks calls) n.requiredNames
  declared : ∀ name ∈ n.requiredNames, (n.property name).isSome
  property : ∀ name, n.property name = lastSet? calls name
  /-- there is no empty list of required names -/
  required : n.required ≠ some []

variable {n m : Schema} {calls : List PropertyCall}

theorem marks_concat (calls : List PropertyCall) (c : PropertyCall) :
    marks (calls ++ [c]) = if c.required then marks calls ++ [c.name] else marks calls := by
  unfold marks
  rw [List.filter_append, List.map_append]
  cases hrequired : c.required with
  | true => simp [hrequired]
  | false => simp [hrequired]

theorem lastSet?_concat (calls : List PropertyCall) (c : PropertyCall) (name : String) :
    lastSet? (calls ++ [c]) name =
      if name = c.name then some c.schema else lastSet? calls name := by
  unfold lastSet?
  rw [List.filter_append]
  by_cases hname : name = c.name
  · simp [hname]
  · have hne : c.name ≠ name := fun h => hname h.symm
    simp [hname, hne]

theorem firsts_nil : Firsts [] [] :=
  ⟨List.nodup_nil, fun _ => Iff.rfl, List.Pairwise.nil⟩

/-- A name comes last when it is first marked, and stays where it is when it is marked again. -/
theorem Firsts.concat {marks names : List String} (h : Firsts marks names) (name : String) :
    Firsts (marks ++ [name]) (if name ∈ names then names else names ++ [name]) := by
  -- another mark at the end leaves first marks where they are
  have hordered : names.Pairwise fun a b =>
      (marks ++ [name]).idxOf a < (marks ++ [name]).idxOf b := by
    refine h.ordered.imp_of_mem fun {a b} ha hb hlt => ?_
    rwa [List.idxOf_append_of_mem ((h.mem_iff a).mp ha),
      List.idxOf_append_of_mem ((h.mem_iff b).mp hb)]
  split
  next hmem =>
    refine ⟨h.distinct, fun other => ?_, hordered⟩
    rw [List.mem_append, List.mem_singleton, ← h.mem_iff]
    exact ⟨Or.inl, fun hother => hother.elim id fun heq => heq ▸ hmem⟩
  next hnew =>
    refine ⟨?_, fun other => ?_, ?_⟩
    · rw [← List.concat_eq_append]
      exact h.distinct.concat hnew
    · rw [List.mem_append, List.mem_append, h.mem_iff]
    · rw [List.pairwise_append]
      refine ⟨hordered, List.pairwise_singleton _ _, fun a ha b hb => ?_⟩
      have hmem := (h.mem_iff a).mp ha
      have hunmarked : name ∉ marks := fun hname => hnew ((h.mem_iff name).mpr hname)
      have hlt := List.idxOf_lt_length_iff.mpr hmem
      rw [List.mem_singleton.mp hb, List.idxOf_append_of_mem hmem,
        List.idxOf_append_of_notMem hunmarked, List.idxOf_cons_self]
      omega

/-- A node on which no property has been set. -/
theorem reflects_nil (hproperty : ∀ name, n.property name = none) (hrequired : n.required = none) :
    n.Reflects [] := by
  have hnone : n.requiredNames = [] := by rw [requiredNames, hrequired, Option.getD_none]
  constructor
  · rw [hnone]
    exact firsts_nil
  · simp [hnone]
  · exact hproperty
  · simp [hrequired]

/-- Whatever else is done to a node, it tells as much of its properties. -/
theorem Reflects.congr (h : n.Reflects calls) (hproperties : m.properties = n.properties)
    (hrequired : m.required = n.required) : m.Reflects calls := by
  have hnames : m.requiredNames = n.requiredNames := by rw [requiredNames, hrequired, requiredNames]
  have hproperty : m.property = n.property := by
    funext name
    rw [Schema.property, hproperties, Schema.property]
  constructor
  · rw [hnames]
    exact h.firsts
  · rw [hnames, hproperty]
    exact h.declared
  · rw [hproperty]
    exact h.property
  · rw [hrequired]
    exact h.required

theorem Reflects.firsts_withProperty (h : n.Reflects calls) (c : PropertyCall) :
    Firsts (marks (calls ++ [c])) (n.withProperty c.name c.schema c.required).requiredNames := by
  rw [marks_concat]
  cases c.required with
  | false =>
    rw [requiredNames_withProperty_false]
    exact h.firsts
  | true =>
    rw [requiredNames_withProperty_true]
    exact h.firsts.concat c.name

theorem Reflects.required_withProperty (h : n.Reflects calls) (c : PropertyCall) :
    (n.withProperty c.name c.schema c.required).required ≠ some [] := by
  cases c.required with
  | false => exact h.required
  | true =>
    show some _ ≠ some []
    rw [Ne, Option.some_inj]
    split
    next hmem => exact List.ne_nil_of_mem hmem
    next => exact List.append_ne_nil_of_right_ne_nil _ (List.cons_ne_nil _ _)

theorem Reflects.withProperty (h : n.Reflects calls) (c : PropertyCall) :
    (n.withProperty c.name c.schema c.required).Reflects (calls ++ [c]) where
  firsts := h.firsts_withProperty c
  declared := declared_withProperty h.declared c.name c.schema c.required
  property := by
    intro name
    rw [property_withProperty, lastSet?_concat, h.property]
  required := h.required_withProperty c

/-- Every node tells of the calls that set its properties. -/
theorem reflects_build : ∀ plan : Plan, plan.build.Reflects plan.calls
  | .withProperty plan name schema required =>
    (reflects_build plan).withProperty { name, schema := schema.build, required }
  | .withDescription plan _ | .withDefault plan _ | .orNull plan =>
    (reflects_build plan).congr rfl rfl
  | .any | .null | .string | .integer | .number | .boolean | .object | .permissive | .array _
  | .map _ | .union _ | .enumeration .. => reflects_nil (fun _ => rfl) rfl

/-! ## What is written and what is refused -/

theorem mem_member {name key : String} {o : Option Json} {v : Json} :
    (key, v) ∈ member name o ↔ key = name ∧ o = some v := by
  cases o with
  | none => simp [member]
  | some j => simp [member, eq_comm]

/-- The list of required names is written if there is one. -/
theorem exists_toJson (n : Schema) : ∃ ms, n.toJson = .object ms ∧
    ∀ v, ("required", v) ∈ ms ↔
      ∃ names, n.required = some names ∧ .array (names.map .string) = v := by
  refine ⟨_, n.toJson_eq, fun v => ?_⟩
  have hentry : (∃ e ∈ n.entries, "required" = e.1 ∧ e.2 = some v) ↔
      (n.required.map fun names => Json.array (names.map .string)) = some v := by
    simp [entries]
  rw [List.mem_flatMap]
  simp only [mem_member]
  rw [hentry, Option.map_eq_some_iff]

theorem Reflects.exists_toJson (h : n.Reflects calls) : ∃ ms, n.toJson = .object ms ∧
    ∀ v, ("required", v) ∈ ms ↔
      n.requiredNames ≠ [] ∧ v = .array (n.requiredNames.map .string) := by
  obtain ⟨ms, hms, hrequired⟩ := n.exists_toJson
  refine ⟨ms, hms, fun v => (hrequired v).trans ?_⟩
  have hlisted := h.required
  unfold requiredNames
  cases hnames : n.required with
  | none => simp
  | some names =>
    rw [hnames] at hlisted
    have hne : names ≠ [] := fun hempty => hlisted (congrArg some hempty)
    simp [hne, eq_comm]

/-- Every node of a schema that is built is built by a part of its plan and tells of the calls in
it: which properties were set last, and which names were marked as required, by the first mark of
each.  A list of required names is written if it is not empty.  No tool with such parameters is
refused for requiring a parameter that is not declared. -/
theorem build_reflects (plan : Plan) :
    (∀ path m, plan.build.at? path = some m →
      ∃ part, plan.at? path = some part ∧ m = part.build ∧ m.Reflects part.calls ∧
        ∃ ms, m.toJson = .object ms ∧ ∀ v, ("required", v) ∈ ms ↔
          m.requiredNames ≠ [] ∧ v = .array (m.requiredNames.map .string)) ∧
      ∀ (t : Tool) (r : Registry), t.parameters = plan.build → ∀ tool parameter,
        t.validate ≠ .error (.invalidRegistration (.undeclaredRequired tool parameter)) ∧
          (r.register t).answer ≠
            .error (.invalidRegistration (.undeclaredRequired tool parameter)) := by
  constructor
  · intro path m hm
    rw [Plan.at?_build] at hm
    obtain ⟨part, hpart, rfl⟩ := Option.map_eq_some_iff.mp hm
    have hreflects := reflects_build part
    exact ⟨part, hpart, rfl, hreflects, hreflects.exists_toJson⟩
  · intro t r ht tool parameter
    have hvalidate : t.validate ≠
        .error (.invalidRegistration (.undeclaredRequired tool parameter)) := by
      intro h
      have hundeclared := Tool.undeclared?_of_fault? (Tool.fault?_of_validate h)
      rw [ht, (Tool.undeclared?_eq_none_iff _).mpr (reflects_build plan).declared] at hundeclared
      cases hundeclared
    exact ⟨hvalidate, fun h => hvalidate (Registry.validate_of_register h)⟩

/-- `b` and `a` are marked in this order, and then `b` is set again without a mark. -/
theorem build_reflects_redeclared :
    let plan : Plan := ((Plan.object.withProperty "b" (.array .string) true).withProperty "a" .null
      true).withProperty "b" .integer false
    plan.build.requiredNames = ["b", "a"] ∧ plan.build.property "b" = some integer ∧
      (∃ ms, plan.build.toJson = .object ms ∧
        ("required", .array [.string "b", .string "a"]) ∈ ms) ∧
      ∀ (invoker : Invoker) tool parameter,
        ({ name := "t", parameters := plan.build, invoker } : Tool).validate ≠
          .error (.invalidRegistration (.undeclaredRequired tool parameter)) := by
  intro plan
  have hnames : plan.build.requiredNames = ["b", "a"] := by decide
  obtain ⟨hnodes, htools⟩ := build_reflects plan
  obtain ⟨part, hpart, -, hreflects, ms, hms, hrequired⟩ := hnodes [] plan.build rfl
  cases hpart
  refine ⟨hnames, hreflects.property "b", ⟨ms, hms, (hrequired _).mpr ?_⟩, ?_⟩
  · rw [hnames]
    exact ⟨List.cons_ne_nil _ _, rfl⟩
  · intro invoker tool parameter
    let t : Tool := { name := "t", parameters := plan.build, invoker }
    exact (htools t (.blank {} none) rfl tool parameter).1

end Toolbox.Schema
