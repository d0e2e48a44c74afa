import Mathlib.Data.List.Forall2
import Mathlib.Data.Option.Basic
import Toolbox.Proofs.Dict
import Toolbox.Proofs.Schema.Erasure

/-!
# Reading back what is written

What is written of a schema has a member for every field that is set, apart from a stored union kind
(`Schema.toJson_eq`).  Reading turns each member into a field (`Schema.Gives`), and the fields of a
schema make up the schema (`Schema.ofFields?_fields`).  So by induction over the schema the stored
union kinds are lost, at every depth, and nothing else (`Schema.ofJson?_toJson`).

Free values, such as defaults, are canonical and so are read back from their own documents
(`Document.value?_ofJson`): reading sorts the members of every object, and those of a canonical value
are sorted already.
-/

namespace Toolbox

namespace Document

mutual

theorem value?_ofJson (j : Json) (h : j.Canonical) : (ofJson j).value? none = some j := by
  cases j with
  | null | bool | number | string => rfl
  | array items =>
    rw [ofJson, value?, Nesting.enter]
    simp only [Option.bind_eq_bind, Option.bind_some]
    rw [itemValues?_ofItems items h]
    rfl
  | object members =>
    rw [ofJson, value?, Nesting.enter]
    simp only [Option.bind_eq_bind, Option.bind_some]
    rw [memberValues?_ofMembers members h.2, Option.bind_some, Json.ofMembers, h.1.sortEntries_eq]
    rfl

theorem itemValues?_ofItems (js : List Json) (h : Json.CanonicalItems js) :
    itemValues? none (ofItems js) = some js := by
  cases js with
  | nil => rfl
  | cons j js =>
    rw [ofItems, itemValues?, value?_ofJson j h.1, itemValues?_ofItems js h.2]
    rfl

theorem memberValues?_ofMembers (ms : List (String × Json)) (h : Json.CanonicalMembers ms) :
    memberValues? none (ofMembers ms) = some ms := by
  cases ms with
  | nil => rfl
  | cons m ms =>
    obtain ⟨name, j⟩ := m
    rw [ofMembers, memberValues?, value?_ofJson j h.1, memberValues?_ofMembers ms h.2]
    rfl

end

end Document

namespace Schema

theorem membersJson_eq_map (ns : List Schema) : membersJson ns = ns.map toJson := by
  induction ns with
  | nil => rfl
  | cons n ns ih => rw [membersJson, ih, List.map_cons]

theorem propertiesJson_eq_map (ps : List (String × Schema)) :
    propertiesJson ps = ps.map fun e => (e.1, e.2.toJson) := by
  induction ps with
  | nil => rfl
  | cons e ps ih => rw [propertiesJson, ih, List.map_cons]

/-- The members of a schema as JSON, with those that are not written. -/
def entries (n : Schema) : List (String × Option Json) :=
  [("additionalProperties", n.additional.map toJson),
    ("anyOf", n.anyOf.map fun ns => .array (ns.map toJson)),
    ("default", n.default),
    ("description", n.description.map .string),
    ("enum", n.literals.map .array),
    ("items", n.items.map toJson),
    ("nullable", n.nullable.map .bool),
    ("properties", n.properties.map fun ps => .object (ps.map fun e => (e.1, e.2.toJson))),
    ("required", n.required.map fun names => .array (names.map .string)),
    ("type", kindJson n.kind)]

theorem toJson_eq (n : Schema) :
    n.toJson = .object (n.entries.flatMap fun e => member e.1 e.2) := by
  obtain ⟨kind, description, properties, required, items, additional, anyOf, literals, default,
    nullable⟩ := n
  have hproperties : propertiesJson? properties =
      properties.map fun ps => .object (ps.map fun e => (e.1, e.2.toJson)) := by
    cases properties with
    | none => rfl
    | some ps => rw [propertiesJson?, propertiesJson_eq_map, Option.map_some]
  have hmembers : membersJson? anyOf = anyOf.map fun ns => .array (ns.map toJson) := by
    cases anyOf with
    | none => rfl
    | some ns => rw [membersJson?, membersJson_eq_map, Option.map_some]
  have hschema : ∀ o : Option Schema, toJson? o = o.map toJson := by
    intro o
    cases o <;> rfl
  rw [toJson, hproperties, hmembers, hschema, hschema]
  simp only [entries, List.flatMap_cons, List.flatMap_nil, List.append_nil, List.append_assoc]

theorem kindJson_erased (kind : Option SchemaKind) :
    kindJson (if kind = some .union then none else kind) = kindJson kind := by
  split
  next h =>
    rw [h]
    rfl
  next => rfl

/-- A stored union kind is not written, at any depth. -/
theorem toJson_eraseUnion (n : Schema) : n.eraseUnion.toJson = n.toJson := by
  induction n using Schema.induction with
  | node n hproperties hitems hadditional hanyOf =>
    have hi : n.items.map (fun m => m.eraseUnion.toJson) = n.items.map toJson :=
      Option.map_congr hitems
    have ha : n.additional.map (fun m => m.eraseUnion.toJson) = n.additional.map toJson :=
      Option.map_congr hadditional
    have hns : n.anyOf.map (fun ns => .array (ns.map fun m => m.eraseUnion.toJson)) =
        n.anyOf.map fun ns => Json.array (ns.map toJson) :=
      Option.map_congr fun ns hns => by rw [List.map_congr_left (hanyOf ns hns)]
    have hps : n.properties.map (fun ps => .object (ps.map fun e => (e.1, e.2.eraseUnion.toJson))) =
        n.properties.map fun ps => Json.object (ps.map fun e => (e.1, e.2.toJson)) :=
      Option.map_congr fun ps hps => by
        rw [List.map_congr_left fun e he => by rw [hproperties ps hps e he]]
    have hentries : n.eraseUnion.entries = n.entries := by
      rw [eraseUnion_eq]
      simp only [entries, Option.map_map, List.map_map, Function.comp_def, kindJson_erased, hi, ha,
        hns, hps]
    rw [toJson_eq, toJson_eq, hentries]

/-! ## The fields of a schema -/

/-- The fields of a schema in the order in which they are written, with those that are not set. -/
def fields (n : Schema) : List (Option SchemaField) :=
  [n.additional.map fun m => .additional (some m), n.anyOf.map fun ns => .anyOf (some ns),
    n.default.map .default, n.description.map fun s => .description (some s),
    n.literals.map fun vs => .literals (some vs), n.items.map fun m => .items (some m),
    n.nullable.map fun b => .nullable (some b), n.properties.map fun ps => .properties (some ps),
    n.required.map fun names => .required (some names), n.kind.map fun k => .kind (some k)]

/-- A field that may be set is put in its place. -/
theorem elim_map_set {α : Type} (field : α → SchemaField) (put : Schema → Option α → Schema)
    (hset : ∀ m a, m.set (field a) = put m (some a)) (m : Schema) (hnone : put m none = m)
    (o : Option α) : (o.map field).elim m m.set = put m o := by
  cases o with
  | none => exact hnone.symm
  | some a => exact hset m a

theorem foldl_set_fields (n : Schema) : (n.fields.filterMap id).foldl set {} = n := by
  have hfold : (n.fields.filterMap id).foldl set {} =
      n.fields.foldl (fun m f => f.elim m m.set) {} := by
    rw [List.foldl_filterMap]
    congr
    funext m f
    cases f <;> rfl
  rw [hfold]
  simp only [fields, List.foldl_cons, List.foldl_nil]
  rw [elim_map_set (fun m => .additional (some m)) (fun m o => { m with additional := o })
      (fun _ _ => rfl) _ rfl,
    elim_map_set (fun ns => .anyOf (some ns)) (fun m o => { m with anyOf := o })
      (fun _ _ => rfl) _ rfl,
    elim_map_set .default (fun m o => { m with default := o }) (fun _ _ => rfl) _ rfl,
    elim_map_set (fun s => .description (some s)) (fun m o => { m with description := o })
      (fun _ _ => rfl) _ rfl,
    elim_map_set (fun vs => .literals (some vs)) (fun m o => { m with literals := o })
      (fun _ _ => rfl) _ rfl,
    elim_map_set (fun m => .items (some m)) (fun m o => { m with items := o })
      (fun _ _ => rfl) _ rfl,
    elim_map_set (fun b => .nullable (some b)) (fun m o => { m with nullable := o })
      (fun _ _ => rfl) _ rfl,
    elim_map_set (fun ps => .properties (some ps)) (fun m o => { m with properties := o })
      (fun _ _ => rfl) _ rfl,
    elim_map_set (fun names => .required (some names)) (fun m o => { m with required := o })
      (fun _ _ => rfl) _ rfl,
    elim_map_set (fun k => .kind (some k)) (fun m o => { m with kind := o })
      (fun _ _ => rfl) _ rfl]
  cases n
  rfl

/-- The names of the fields in the order in which they are written. -/
def writtenNames : List String :=
  ["additionalProperties", "anyOf", "default", "description", "enum", "items", "nullable",
    "properties", "required", "type"]

theorem names_sublist {names : List String} {fs : List (Option SchemaField)}
    (h : List.Forall₂ (fun name f => ∀ field ∈ f, SchemaField.name field = name) names fs) :
    ((fs.filterMap id).map SchemaField.name).Sublist names := by
  induction h with
  | nil => exact List.Sublist.slnil
  | @cons name f names fs hf _ ih =>
    cases f with
    | none => exact ih.cons name
    | some field =>
      have hname : field.name = name := hf field rfl
      rw [List.filterMap_cons_some (id_eq (some field)), List.map_cons, hname]
      exact ih.cons_cons name

theorem fields_names (n : Schema) :
    List.Forall₂ (fun name f => ∀ field ∈ f, SchemaField.name field = name) writtenNames
      n.fields := by
  simp only [writtenNames, fields, List.forall₂_cons, List.forall₂_nil_left_iff,
    Option.forall_mem_map, SchemaField.name, implies_true, and_true]

/-- The fields of a schema make up the schema. -/
theorem ofFields?_fields (n : Schema) : ofFields? (n.fields.filterMap id) = some n := by
  have hnodup : ((n.fields.filterMap id).map SchemaField.name).Nodup :=
    (show writtenNames.Nodup by decide).sublist (names_sublist n.fields_names)
  rw [ofFields?, if_pos hnodup, foldl_set_fields]

/-! ## Reading members -/

theorem ofDocument?_object (ms : List (Option String × Document)) :
    ofDocument? none (.object ms) = (memberFields? none ms).bind ofFields? := rfl

section
variable {d : Document} {ds : List Document} {ms : List (Option String × Document)}

theorem field?_default {j : Json} (h : d.value? none = some j) :
    field? none "default" d = some (.default j) := by
  have hplain : field? none "default" d = SchemaField.plain? none "default" d := by
    cases d <;> rfl
  rw [hplain, SchemaField.plain?, h]
  rfl

theorem field?_literals {vs : List Json} (h : Document.itemValues? none ds = some vs) :
    field? none "enum" (.array ds) = some (.literals (some vs)) := by
  simp [field?, SchemaField.plain?, Nesting.enter, h]

theorem field?_items {n : Schema} (h : ofDocument? none (.object ms) = some n) :
    field? none "items" (.object ms) = some (.items (some n)) := by
  obtain ⟨fs, hfs, hn⟩ := Option.bind_eq_some_iff.mp h
  simp [field?, Nesting.enter, hfs, hn]

theorem field?_additional {n : Schema} (h : ofDocument? none (.object ms) = some n) :
    field? none "additionalProperties" (.object ms) = some (.additional (some n)) := by
  obtain ⟨fs, hfs, hn⟩ := Option.bind_eq_some_iff.mp h
  simp [field?, Nesting.enter, hfs, hn]

theorem field?_anyOf {ns : List Schema} (h : members? none ds = some ns) :
    field? none "anyOf" (.array ds) = some (.anyOf (some ns)) := by
  simp [field?, Nesting.enter, h]

theorem field?_properties {ps : List (String × Schema)} (h : properties? none ms = some ps)
    (hsorted : Ascending ps) :
    field? none "properties" (.object ms) = some (.properties (some ps)) := by
  simp [field?, Nesting.enter, h, hsorted.sortEntries_eq]

end

theorem canonicalItems_iff (vs : List Json) : Json.CanonicalItems vs ↔ ∀ v ∈ vs, v.Canonical := by
  induction vs with
  | nil => simp [Json.CanonicalItems]
  | cons v vs ih => rw [Json.CanonicalItems, ih, List.forall_mem_cons]

theorem texts?_strings (names : List String) :
    SchemaField.texts? (.array (names.map .string)) = some names := by
  rw [SchemaField.texts?]
  induction names with
  | nil => rfl
  | cons name names ih =>
    rw [List.map_cons, List.mapM_cons, ih]
    rfl

theorem field?_required (names : List String) :
    field? none "required" (.ofJson (.array (names.map .string))) =
      some (.required (some names)) := by
  have hcanonical : Json.CanonicalItems (names.map .string) := by
    rw [canonicalItems_iff, List.forall_mem_map]
    intro name _
    trivial
  have hvalue := Document.value?_ofJson (.array (names.map .string)) hcanonical
  rw [Document.ofJson] at hvalue ⊢
  simp [field?, SchemaField.plain?, hvalue, texts?_strings]

theorem field?_kind (k : SchemaKind) :
    field? none "type" (.ofJson (.string k.name)) = some (.kind (some k)) := by
  cases k <;> rfl

/-- Whether a member gives a field: both are missing, or the field is read from the document of the
member. -/
def Gives (e : String × Option Json) (f : Option SchemaField) : Prop :=
  e.1 ∈ SchemaField.names ∧
    Option.Rel (fun j field => field? none e.1 (.ofJson j) = some field) e.2 f

theorem gives_map {α : Type} {name : String} {o : Option α} {json : α → Json}
    {field : α → SchemaField} (hname : name ∈ SchemaField.names)
    (h : ∀ a ∈ o, field? none name (.ofJson (json a)) = some (field a)) :
    Gives (name, o.map json) (o.map field) := by
  refine ⟨hname, ?_⟩
  cases o with
  | none => exact .none
  | some a => exact .some (h a rfl)

/-- The fields that members give are read in their order. -/
theorem memberFields?_of_gives {es : List (String × Option Json)} {fs : List (Option SchemaField)}
    (h : List.Forall₂ Gives es fs) :
    memberFields? none (Document.ofMembers (es.flatMap fun e => member e.1 e.2)) =
      some (fs.filterMap id) := by
  induction h with
  | nil => rfl
  | @cons e f es fs hef _ ih =>
    obtain ⟨name, o⟩ := e
    obtain ⟨hname, hrel⟩ := hef
    rw [List.flatMap_cons]
    cases hrel with
    | none => exact ih
    | @some j field hfield =>
      have hname : name ∈ SchemaField.names := hname
      have hfield : field? none name (.ofJson j) = some field := hfield
      rw [member, List.singleton_append, Document.ofMembers, memberFields?, ih]
      simp [hname, hfield]

/-! ## Reading a schema -/

/-- What is stored in a node is in the order in which maps are kept: its properties, and the members
of every object in its default and its literals. -/
structure CanonicalNode (n : Schema) : Prop where
  sorted : n.Sorted
  default : ∀ v ∈ n.default, v.Canonical
  literals : ∀ vs ∈ n.literals, ∀ v ∈ vs, v.Canonical

/-- Whether the maps of every node are in order; whatever else the nodes hold is left open. -/
def Canonical (n : Schema) : Prop := n.Everywhere CanonicalNode

theorem fields_eraseUnion (n : Schema) :
    n.eraseUnion.fields =
      [n.additional.map fun m => .additional (some m.eraseUnion),
        n.anyOf.map fun ns => .anyOf (some (ns.map eraseUnion)), n.default.map .default,
        n.description.map fun s => .description (some s),
        n.literals.map fun vs => .literals (some vs),
        n.items.map fun m => .items (some m.eraseUnion),
        n.nullable.map fun b => .nullable (some b),
        n.properties.map fun ps => .properties (some (ps.map fun e => (e.1, e.2.eraseUnion))),
        n.required.map fun names => .required (some names),
        (if n.kind = some .union then none else n.kind).map fun k => .kind (some k)] := by
  rw [eraseUnion_eq]
  simp only [fields, Option.map_map]
  rfl

theorem gives_kind (kind : Option SchemaKind) :
    Gives ("type", kindJson kind)
      ((if kind = some .union then none else kind).map fun k => .kind (some k)) := by
  have hname : "type" ∈ SchemaField.names := by decide
  refine ⟨hname, ?_⟩
  cases kind with
  | none => exact .none
  | some k =>
    -- a union kind is the one that is not written
    cases k with
    | union => exact .none
    | object | array | string | integer | number | boolean | null => exact .some (field?_kind _)

/-- Whether reading what is written of a schema gives the schema without stored union kinds. -/
def ReadsBack (n : Schema) : Prop := ofDocument? none (.ofJson n.toJson) = some n.eraseUnion

theorem members?_ofItems {ns : List Schema} (h : ∀ n ∈ ns, n.ReadsBack) :
    members? none (Document.ofItems (ns.map toJson)) = some (ns.map eraseUnion) := by
  induction ns with
  | nil => rfl
  | cons n ns ih =>
    rw [List.forall_mem_cons] at h
    rw [List.map_cons, Document.ofItems, members?, h.1, ih h.2]
    rfl

theorem properties?_ofMembers {ps : List (String × Schema)} (h : ∀ e ∈ ps, e.2.ReadsBack) :
    properties? none (Document.ofMembers (ps.map fun e => (e.1, e.2.toJson))) =
      some (ps.map fun e => (e.1, e.2.eraseUnion)) := by
  induction ps with
  | nil => rfl
  | cons e ps ih =>
    rw [List.forall_mem_cons] at h
    rw [List.map_cons, Document.ofMembers, properties?, h.1, ih h.2]
    rfl

theorem ofJson_toJson (n : Schema) :
    Document.ofJson n.toJson =
      .object (Document.ofMembers (n.entries.flatMap fun e => member e.1 e.2)) := by
  rw [toJson_eq, Document.ofJson]

/-- What is written of a canonical node gives the fields of the node without stored union kinds,
provided that the schemas directly below read back. -/
theorem CanonicalNode.gives_fields {n : Schema} (h : CanonicalNode n)
    (hproperties : ∀ ps ∈ n.properties, ∀ e ∈ ps, e.2.ReadsBack)
    (hitems : ∀ m ∈ n.items, m.ReadsBack) (hadditional : ∀ m ∈ n.additional, m.ReadsBack)
    (hanyOf : ∀ ns ∈ n.anyOf, ∀ m ∈ ns, m.ReadsBack) :
    List.Forall₂ Gives n.entries n.eraseUnion.fields := by
  have hascending : ∀ ps ∈ n.properties, Ascending (ps.map fun e => (e.1, e.2.eraseUnion)) := by
    intro ps hps
    have hsorted : Ascending (n.properties.getD []) := h.sorted
    rw [show n.properties = some ps from hps] at hsorted
    exact List.pairwise_map.mpr hsorted
  rw [fields_eraseUnion, entries]
  refine .cons ?additional (.cons ?anyOf (.cons ?default (.cons ?description (.cons ?enum
    (.cons ?items (.cons ?nullable (.cons ?properties (.cons ?required (.cons ?type .nil)))))))))
  case additional =>
    refine gives_map (by decide) fun m hm => ?_
    have hread := hadditional m hm
    rw [ReadsBack, ofJson_toJson] at hread
    rw [ofJson_toJson]
    exact field?_additional hread
  case anyOf =>
    refine gives_map (by decide) fun ns hns => ?_
    rw [Document.ofJson]
    exact field?_anyOf (members?_ofItems (hanyOf ns hns))
  case default =>
    have hgives : Gives ("default", n.default.map id) (n.default.map .default) :=
      gives_map (by decide) fun v hv => field?_default (Document.value?_ofJson v (h.default v hv))
    rwa [Option.map_id] at hgives
  case description => exact gives_map (by decide) fun s _ => rfl
  case enum =>
    refine gives_map (by decide) fun vs hvs => ?_
    have hcanonical := (canonicalItems_iff vs).mpr (h.literals vs hvs)
    exact field?_literals (Document.itemValues?_ofItems vs hcanonical)
  case items =>
    refine gives_map (by decide) fun m hm => ?_
    have hread := hitems m hm
    rw [ReadsBack, ofJson_toJson] at hread
    rw [ofJson_toJson]
    exact field?_items hread
  case nullable => exact gives_map (by decide) fun b _ => rfl
  case properties =>
    refine gives_map (by decide) fun ps hps => ?_
    rw [Document.ofJson]
    exact field?_properties (properties?_ofMembers (hproperties ps hps)) (hascending ps hps)
  case required => exact gives_map (by decide) fun names _ => field?_required names
  case type => exact gives_kind n.kind

/-- Reading what is written of a canonical schema gives the schema without stored union kinds. -/
theorem Canonical.readsBack {n : Schema} (h : n.Canonical) : n.ReadsBack := by
  refine h.induction_on (Q := ReadsBack) (fun _ hm => hm.sorted) ?_
  intro m hm hproperties hitems hadditional hanyOf
  have hfields := hm.gives_fields hproperties hitems hadditional hanyOf
  rw [ReadsBack, ofJson_toJson, ofDocument?_object, memberFields?_of_gives hfields,
    Option.bind_some]
  exact ofFields?_fields m.eraseUnion

/-- What is written of a canonical schema can be read, and gives the schema with every stored union
kind left out.  So it gives the schema itself exactly if no node stores one, and it is written
alike.  The nodes keep their kinds exactly if each one that stores a union kind lists its
alternatives, which is so in schemas of types and of signatures. -/
theorem ofJson?_toJson (n : Schema) (h : n.Canonical) :
    ∃ m, ofJson? n.toJson = some m ∧ m = n.eraseUnion ∧
      (m = n ↔ n.Everywhere fun k => k.kind ≠ some .union) ∧ m.toJson = n.toJson ∧
      ((∀ path, (m.at? path).map effectiveKind = (n.at? path).map effectiveKind) ↔
        n.Everywhere ListsAlternatives) ∧
      (∀ t : ParamType, (ofType t).value.Everywhere ListsAlternatives) ∧
      ∀ s : Signature, s.schema.value.Everywhere ListsAlternatives := by
  refine ⟨n.eraseUnion, h.readsBack, rfl, ?_, n.toJson_eraseUnion,
    n.effectiveKind_at?_eraseUnion_iff, listsAlternatives_ofType,
    Signature.listsAlternatives_schema⟩
  exact eraseUnion_eq_self_iff (h.mono fun _ hnode => hnode.sorted)

/-- A union whose first alternative stores a union kind and nothing else. -/
theorem ofJson?_toJson_bare_union :
    let n : Schema :=
      { union [ofKind .union, (ofKind .string).withDefault .null] with
        required := some [], nullable := some false }
    n.Canonical ∧ ∃ m, ofJson? n.toJson = some m ∧ m ≠ n ∧ m.toJson = n.toJson ∧
      m = { kind := none, anyOf := some [any, (ofKind .string).withDefault .null],
            required := some [], nullable := some false } ∧
      ¬ ∀ path, (m.at? path).map effectiveKind = (n.at? path).map effectiveKind := by
  intro n
  have hbare : ∀ kind, (ofKind kind).Canonical := fun kind =>
    (everywhere_ofKind kind).mpr ⟨.nil, nofun, nofun⟩
  have hdefault : ((ofKind .string).withDefault .null).Canonical := by
    refine (hbare .string).of_child?_eq (fun _ => rfl) ⟨.nil, fun v hv => ?_, nofun⟩
    cases hv
    trivial
  have hunion : (union [ofKind .union, (ofKind .string).withDefault .null]).Canonical := by
    refine (everywhere_union _).mpr ⟨⟨.nil, nofun, nofun⟩, fun m hm => ?_⟩
    rcases List.mem_pair.mp hm with rfl | rfl
    · exact hbare .union
    · exact hdefault
  have hcanonical : n.Canonical := hunion.of_child?_eq (fun _ => rfl) ⟨.nil, nofun, nofun⟩
  obtain ⟨m, hread, herased, hself, hwritten, hkinds, -⟩ := ofJson?_toJson n hcanonical
  refine ⟨hcanonical, m, hread, ?_, hwritten, herased, ?_⟩
  · rw [ne_eq, hself]
    intro hnone
    exact hnone [] n rfl rfl
  · rw [hkinds]
    intro hlists
    exact absurd (hlists [.alternative 0] (ofKind .union) rfl rfl) (by decide)

end Schema

end Toolbox
