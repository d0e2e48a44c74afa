import Toolbox.ParamType
import Toolbox.Event
import Toolbox.Schema.Basic

/-!
# Schemas of types

`Schema.ofType` describes what a type accepts.  A type nothing is known about is described as a
string, and that is reported.
-/

namespace Toolbox.Schema

def ofScalar : Scalar → Schema
  | .text => string
  | .integer => integer
  | .real => number
  | .boolean => boolean

/-- Kind of a literal value; arrays and objects have none. -/
def literalKind : Json → Option SchemaKind
  | .string _ => some .string
  | .number (.int _) => some .integer
  | .number (.real _) => some .number
  | .bool _ => some .boolean
  | .null => some .null
  | .array _ | .object _ => none

/-- Kind that two literal kinds share: integers are numbers. -/
def joinKinds (a b : SchemaKind) : Option SchemaKind :=
  if a = b then some a
  else
    match a, b with
    | .integer, .number | .number, .integer => some .number
    | _, _ => none

/-- Kind that a literal kind shares with all the values. -/
def joinLiterals (kind : SchemaKind) : List Json → Option SchemaKind
  | [] => some kind
  | v :: vs => do joinLiterals (← joinKinds kind (← literalKind v)) vs

/-- Kind that all the values share. -/
def commonKind : List Json → Option SchemaKind
  | [] => none
  | v :: vs => do joinLiterals (← literalKind v) vs

/-- Schema of a closed set of values; a string schema if they have no kind in common. -/
def ofLiterals (values : List Json) : Schema :=
  enumeration ((commonKind values).getD .string) values

/-- Every schema in turn, with all events. -/
def collect : List (Logged Schema) → Logged (List Schema)
  | [] => pure []
  | n :: ns => do return (← n) :: (← collect ns)

/-- Schema of a union from the schemas of its members, each with whether it is the null type.  A
single member that is not null stands for itself; null then makes it nullable. -/
def ofUnion (members : List (Bool × Logged Schema)) : Logged Schema :=
  match members.filter (!·.1) with
  | [] => pure (if members.isEmpty then any else null)
  | [only] => if members.any (·.1) then orNull <$> only.2 else only.2
  | _ => union <$> collect (members.map (·.2))

mutual

def ofType : ParamType → Logged Schema
  | .null => pure null
  | .optional inner => orNull <$> ofType inner
  | .union members => ofUnion (ofMembers members)
  | .sequence none => pure (array any)
  | .sequence (some items) => array <$> ofType items
  | .mapping none => pure (map any)
  | .mapping (some values) => map <$> ofType values
  | .scalar kind => pure (ofScalar kind)
  | .literal values => pure (ofLiterals values)
  | .any => pure any
  | .unknown name => do
    .emit (.unsupportedType name)
    return string

def ofMembers : List ParamType → List (Bool × Logged Schema)
  | [] => []
  | t :: ts => (t.isNull, ofType t) :: ofMembers ts

end

end Toolbox.Schema
