import Toolbox.Json.Reader
import Toolbox.Schema.Basic

/-!
# Schemas as JSON

`toJson` writes the fields that are set, in ascending order of their names; a union kind is not
written, since `anyOf` tells as much.  `ofDocument?` reads a schema back: from an object, whose
unknown members are passed over and whose known ones must not repeat, or from an array of the
fields in the order of `SchemaField.names`.
-/

namespace Toolbox

namespace Schema

/-- The member `name`, if it has a value. -/
def member (name : String) : Option Json → List (String × Json)
  | none => []
  | some j => [(name, j)]

/-- How a kind is written; a union is not. -/
def kindJson : Option SchemaKind → Option Json
  | none | some .union => none
  | some kind => some (.string kind.name)

mutual

def toJson : Schema → Json
  | ⟨kind, description, properties, required, items, additional, anyOf, literals, default,
      nullable⟩ =>
    .object (member "additionalProperties" (toJson? additional)
      ++ member "anyOf" (membersJson? anyOf)
      ++ member "default" default
      ++ member "description" (description.map .string)
      ++ member "enum" (literals.map .array)
      ++ member "items" (toJson? items)
      ++ member "nullable" (nullable.map .bool)
      ++ member "properties" (propertiesJson? properties)
      ++ member "required" (required.map fun names => .array (names.map .string))
      ++ member "type" (kindJson kind))

def toJson? : Option Schema → Option Json
  | none => none
  | some n => some n.toJson

def membersJson? : Option (List Schema) → Option Json
  | none => none
  | some ns => some (.array (membersJson ns))

def membersJson : List Schema → List Json
  | [] => []
  | n :: ns => n.toJson :: membersJson ns

def propertiesJson? : Option (List (String × Schema)) → Option Json
  | none => none
  | some ps => some (.object (propertiesJson ps))

def propertiesJson : List (String × Schema) → List (String × Json)
  | [] => []
  | (name, n) :: ps => (name, n.toJson) :: propertiesJson ps

end

end Schema

/-- One field of a schema with its value. -/
inductive SchemaField where
  | kind (value : Option SchemaKind)
  | description (value : Option String)
  | properties (value : Option (List (String × Schema)))
  | required (value : Option (List String))
  | items (value : Option Schema)
  | additional (value : Option Schema)
  | anyOf (value : Option (List Schema))
  | literals (value : Option (List Json))
  | default (value : Json)
  | nullable (value : Option Bool)

namespace SchemaField

def name : SchemaField → String
  | kind _ => "type"
  | description _ => "description"
  | properties _ => "properties"
  | required _ => "required"
  | items _ => "items"
  | additional _ => "additionalProperties"
  | anyOf _ => "anyOf"
  | literals _ => "enum"
  | default _ => "default"
  | nullable _ => "nullable"

/-- Names of the fields, in the order of the array form. -/
def names : List String :=
  ["type", "description", "properties", "required", "items", "additionalProperties", "anyOf",
    "enum", "default", "nullable"]

/-- The kind that a document names: a string, or an object with that single member set to null. -/
def kind? (nesting : Nesting) : Document → Option SchemaKind
  | .scalar (some (.string name)) => SchemaKind.ofName? name
  | .object [(some name, .scalar (some .null))] => do
    let _ ← nesting.enter
    SchemaKind.ofName? name
  | _ => none

/-- Texts of an array of strings. -/
def texts? : Json → Option (List String)
  | .array js => js.mapM fun
    | .string s => some s
    | _ => none
  | _ => none

/-- A field read from a document whose value decides alone; null leaves any field but the default
unset. -/
def plain? (nesting : Nesting) (name : String) (d : Document) : Option SchemaField := do
  match name, d with
  | "default", d => return .default (← d.value? nesting)
  | "type", .scalar (some .null) => return .kind none
  | "type", d => return .kind (some (← kind? nesting d))
  | "description", .scalar (some .null) => return .description none
  | "description", .scalar (some (.string s)) => return .description (some s)
  | "required", .scalar (some .null) => return .required none
  | "required", d => return .required (some (← texts? (← d.value? nesting)))
  | "enum", .scalar (some .null) => return .literals none
  | "enum", .array ds =>
    return .literals (some (← Document.itemValues? (← nesting.enter) ds))
  | "nullable", .scalar (some .null) => return .nullable none
  | "nullable", .scalar (some (.bool b)) => return .nullable (some b)
  | "properties", .scalar (some .null) => return .properties none
  | "items", .scalar (some .null) => return .items none
  | "additionalProperties", .scalar (some .null) => return .additional none
  | "anyOf", .scalar (some .null) => return .anyOf none
  | _, _ => none

end SchemaField

namespace Schema

def set (n : Schema) : SchemaField → Schema
  | .kind value => { n with kind := value }
  | .description value => { n with description := value }
  | .properties value => { n with properties := value }
  | .required value => { n with required := value }
  | .items value => { n with items := value }
  | .additional value => { n with additional := value }
  | .anyOf value => { n with anyOf := value }
  | .literals value => { n with literals := value }
  | .default value => { n with default := some value }
  | .nullable value => { n with nullable := value }

/-- The schema of the given fields, none of which may repeat. -/
def ofFields? (fields : List SchemaField) : Option Schema :=
  if (fields.map SchemaField.name).Nodup then some (fields.foldl set {}) else none

mutual

def ofDocument? (nesting : Nesting) : Document → Option Schema
  | .scalar _ => none
  | .array ds => do ofFields? (← tupleFields? (← nesting.enter) SchemaField.names ds)
  | .object ms => do ofFields? (← memberFields? (← nesting.enter) ms)

/-- Reads the field `name`. -/
def field? (nesting : Nesting) (name : String) : Document → Option SchemaField
  | .scalar value => SchemaField.plain? nesting name (.scalar value)
  | .array ds =>
    match name with
    | "items" => do
      return .items (← ofFields? (← tupleFields? (← nesting.enter) SchemaField.names ds))
    | "additionalProperties" => do
      return .additional (← ofFields? (← tupleFields? (← nesting.enter) SchemaField.names ds))
    | "anyOf" => do return .anyOf (← members? (← nesting.enter) ds)
    | name => SchemaField.plain? nesting name (.array ds)
  | .object ms =>
    match name with
    | "items" => do return .items (← ofFields? (← memberFields? (← nesting.enter) ms))
    | "additionalProperties" => do
      return .additional (← ofFields? (← memberFields? (← nesting.enter) ms))
    | "properties" => do return .properties (sortEntries (← properties? (← nesting.enter) ms))
    | name => SchemaField.plain? nesting name (.object ms)

/-- Reads the fields of an array form; fields at the end may be missing. -/
def tupleFields? (nesting : Nesting) : List String → List Document → Option (List SchemaField)
  | _, [] => some []
  | [], _ :: _ => none
  | name :: names, d :: ds => do
    return (← field? nesting name d) :: (← tupleFields? nesting names ds)

/-- Reads the known members of an object form. -/
def memberFields? (nesting : Nesting) : List (Option String × Document) →
    Option (List SchemaField)
  | [] => some []
  | (none, _) :: _ => none
  | (some name, d) :: ms => do
    let fields ← memberFields? nesting ms
    if name ∈ SchemaField.names then return (← field? nesting name d) :: fields
    else return fields

def members? (nesting : Nesting) : List Document → Option (List Schema)
  | [] => some []
  | d :: ds => do return (← ofDocument? nesting d) :: (← members? nesting ds)

/-- Reads named schemas. -/
def properties? (nesting : Nesting) : List (Option String × Document) →
    Option (List (String × Schema))
  | [] => some []
  | (name, d) :: ms => do
    return (← name, ← ofDocument? nesting d) :: (← properties? nesting ms)

end

/-- The schema that a value encodes. -/
def ofJson? (j : Json) : Option Schema := ofDocument? none (Document.ofJson j)

/-- The schema that a text encodes. -/
def ofText? (text : String) : Option Schema := do
  ofDocument? Nesting.ofText (← Document.ofText? text)

end Schema

end Toolbox
