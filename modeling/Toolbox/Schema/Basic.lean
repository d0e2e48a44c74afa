import Toolbox.Json.Basic

/-!
# Schemas

A schema describes the values of a parameter to a language model.  Which fields of a node carry
meaning depends on its kind: `properties` and `required` or `additional` for objects, `items` for
arrays, `anyOf` for unions.  A node without a kind accepts any value.

Building with `withProperty` keeps the properties in ascending order of their names.
-/

namespace Toolbox

/-- Structural kind of a schema. -/
inductive SchemaKind where
  | object
  | array
  | string
  | integer
  | number
  | boolean
  | null
  | union
  deriving DecidableEq, Repr

namespace SchemaKind

def name : SchemaKind → String
  | object => "object"
  | array => "array"
  | string => "string"
  | integer => "integer"
  | number => "number"
  | boolean => "boolean"
  | null => "null"
  | union => "union"

def all : List SchemaKind := [object, array, string, integer, number, boolean, null, union]

def ofName? (name : String) : Option SchemaKind := all.find? (·.name == name)

end SchemaKind

structure Schema where
  kind : Option SchemaKind := none
  description : Option String := none
  properties : Option (List (String × Schema)) := none
  required : Option (List String) := none
  items : Option Schema := none
  additional : Option Schema := none
  anyOf : Option (List Schema) := none
  literals : Option (List Json) := none
  default : Option Json := none
  nullable : Option Bool := none
  deriving Repr, Inhabited

namespace Schema

/-! ## Building -/

def any : Schema := {}

def ofKind (kind : SchemaKind) : Schema := { kind := some kind }

def null : Schema := ofKind .null

def string : Schema := ofKind .string

def integer : Schema := ofKind .integer

def number : Schema := ofKind .number

def boolean : Schema := ofKind .boolean

/-- Objects, with no properties yet. -/
def object : Schema := { kind := some .object, properties := some [] }

/-- Objects with any members, none of them required: the schema of last resort. -/
def permissive : Schema := object

/-- Arrays of `items`. -/
def array (items : Schema) : Schema := { kind := some .array, items := some items }

/-- Objects whose values match `values`. -/
def map (values : Schema) : Schema :=
  { kind := some .object, additional := some values }

/-- Values of one of the members. -/
def union (members : List Schema) : Schema :=
  { kind := some .union, anyOf := some members }

/-- A closed set of values of one kind. -/
def enumeration (kind : SchemaKind) (literals : List Json) : Schema :=
  { kind := some kind, literals := some literals }

/-- The required names with `name` among them, at the end unless it was there. -/
def requireName (name : String) (required : Option (List String)) : Option (List String) :=
  let names := required.getD []
  some (if name ∈ names then names else names ++ [name])

/-- Sets a property and marks it required if asked to; an optional property stays required if it
was required before. -/
def withProperty (n : Schema) (name : String) (schema : Schema) (required : Bool) :
    Schema :=
  { n with
    required := if required then requireName name n.required else n.required
    properties := some (insertEntry name schema (n.properties.getD [])) }

/-- Sets the description. -/
def withDescription (n : Schema) (description : String) : Schema :=
  { n with description := some description }

def withDefault (n : Schema) (default : Json) : Schema := { n with default := some default }

/-- Accepts null as well. -/
def orNull (n : Schema) : Schema := { n with nullable := some true }

/-! ## Reading off -/

/-- The kind of a node, a union if it only lists alternatives. -/
def effectiveKind (n : Schema) : Option SchemaKind :=
  match n.kind with
  | some kind => some kind
  | none => n.anyOf.map fun _ => .union

def property (n : Schema) (name : String) : Option Schema :=
  n.properties.bind (findEntry name)

/-- Required names, in the order in which they were marked. -/
def requiredNames (n : Schema) : List String := n.required.getD []

def isNullable (n : Schema) : Bool := n.nullable.getD false

/-- Whether the node is an object schema that asks for nothing. -/
def isPermissive (n : Schema) : Bool :=
  n.kind == some .object && n.properties.any (·.isEmpty) && n.requiredNames.isEmpty
    && n.additional.isNone

/-! ## Equality -/

mutual

def decEq : (a b : Schema) → Decidable (a = b)
  | ⟨k, d, ps, r, i, m, u, l, v, n⟩, ⟨k', d', ps', r', i', m', u', l', v', n'⟩ =>
    match decEqProperties? ps ps', decEq? i i', decEq? m m', decEqMembers? u u' with
    | isTrue hp, isTrue hi, isTrue hm, isTrue hu =>
      if h : k = k' ∧ d = d' ∧ r = r' ∧ l = l' ∧ v = v' ∧ n = n' then
        isTrue (by
          obtain ⟨rfl, rfl, rfl, rfl, rfl, rfl⟩ := h
          rw [hp, hi, hm, hu])
      else isFalse (fun h' => h (by injection h'; simp_all))
    | isFalse h, _, _, _ => isFalse (fun h' => h (by injection h'))
    | _, isFalse h, _, _ => isFalse (fun h' => h (by injection h'))
    | _, _, isFalse h, _ => isFalse (fun h' => h (by injection h'))
    | _, _, _, isFalse h => isFalse (fun h' => h (by injection h'))

def decEq? : (a b : Option Schema) → Decidable (a = b)
  | none, none => isTrue rfl
  | none, some _ | some _, none => isFalse nofun
  | some a, some b =>
    match decEq a b with
    | isTrue h => isTrue (h ▸ rfl)
    | isFalse h => isFalse (fun h' => h (Option.some.inj h'))

def decEqMembers : (as bs : List Schema) → Decidable (as = bs)
  | [], [] => isTrue rfl
  | [], _ :: _ | _ :: _, [] => isFalse nofun
  | a :: as, b :: bs =>
    match decEq a b, decEqMembers as bs with
    | isTrue h, isTrue hs => isTrue (h ▸ hs ▸ rfl)
    | isFalse h, _ => isFalse (fun h' => h (List.cons.inj h').1)
    | _, isFalse hs => isFalse (fun h' => hs (List.cons.inj h').2)

def decEqMembers? : (as bs : Option (List Schema)) → Decidable (as = bs)
  | none, none => isTrue rfl
  | none, some _ | some _, none => isFalse nofun
  | some as, some bs =>
    match decEqMembers as bs with
    | isTrue h => isTrue (h ▸ rfl)
    | isFalse h => isFalse (fun h' => h (Option.some.inj h'))

def decEqProperties : (as bs : List (String × Schema)) → Decidable (as = bs)
  | [], [] => isTrue rfl
  | [], _ :: _ | _ :: _, [] => isFalse nofun
  | (j, a) :: as, (k, b) :: bs =>
    match decEq a b, decEqProperties as bs with
    | isTrue h, isTrue hs =>
      if hk : j = k then isTrue (hk ▸ h ▸ hs ▸ rfl)
      else isFalse (fun h' => hk (Prod.mk.inj (List.cons.inj h').1).1)
    | isFalse h, _ => isFalse (fun h' => h (Prod.mk.inj (List.cons.inj h').1).2)
    | _, isFalse hs => isFalse (fun h' => hs (List.cons.inj h').2)

def decEqProperties? : (as bs : Option (List (String × Schema))) → Decidable (as = bs)
  | none, none => isTrue rfl
  | none, some _ | some _, none => isFalse nofun
  | some as, some bs =>
    match decEqProperties as bs with
    | isTrue h => isTrue (h ▸ rfl)
    | isFalse h => isFalse (fun h' => h (Option.some.inj h'))

end

instance : DecidableEq Schema := decEq

end Schema

end Toolbox
