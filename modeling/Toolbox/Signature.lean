import Toolbox.DocComment
import Toolbox.Error
import Toolbox.Schema.Derive

/-!
# Signatures

The parameters a callable declares, in order, with its documentation.  A receiver is a parameter
that callers do not supply; the others are the arguments.

Every argument becomes a property of the schema, required unless it has a default.  Descriptions
come from the parameter or else from the documentation.  `trySchema` reports why no schema can be
derived; `schema` degrades to the permissive schema and logs the reason.

Binding gives every argument the caller's value or else its declared default, and refuses arguments
that are missing or that match no parameter.
-/

namespace Toolbox

inductive DefaultValue where
  | json (value : Json)
  /-- a default without a JSON form, and why -/
  | unrepresentable (reason : String)
  deriving DecidableEq, Repr

structure Param where
  name : String
  type : ParamType
  default : Option DefaultValue := none
  description : Option String := none
  receiver : Bool := false
  deriving Repr

/-- The receiver of a method. -/
def Param.ofReceiver (name : String) : Param := { name, type := .any, receiver := true }

/-- The default as JSON, if one is declared. -/
def Param.defaultValue (p : Param) : Except SchemaError (Option Json) :=
  match p.default with
  | none => .ok none
  | some (.json value) => .ok (some value)
  | some (.unrepresentable reason) => .error (.unrepresentableDefault p.name reason)

/-- What a callable declares. -/
structure Signature where
  name : String
  doc : Option String := none
  params : List Param := []
  deriving Repr

namespace Signature

/-- Parameters that callers supply. -/
def arguments (s : Signature) : List Param := s.params.filter (!·.receiver)

/-- First fault among the parameters from position `index` on; `seen` holds the names before. -/
def paramFault? (signature : String) (index : Nat) (seen : List String) :
    List Param → Option RegistrationFault
  | [] => none
  | p :: ps =>
    if Text.isBlankText p.name then some (.emptyParameterName index signature)
    else if p.receiver ∧ index ≠ 0 then some (.misplacedReceiver p.name signature)
    else if p.name ∈ seen then some (.duplicateParameter p.name signature)
    else paramFault? signature (index + 1) (p.name :: seen) ps

/-- First fault of a signature. -/
def fault? (s : Signature) : Option RegistrationFault := paramFault? s.name 0 [] s.params

/-- Accepts a signature whose parameters have distinct names that are not blank, and whose
receiver, if any, comes first. -/
def validate (s : Signature) : Except ToolError Unit :=
  match s.fault? with
  | none => .ok ()
  | some fault => .error (.invalidRegistration fault)

/-! ## Schemas -/

def docComment (s : Signature) : DocComment := (s.doc.map DocComment.parse).getD {}

/-- Schema of one argument, apart from its default. -/
def propertySchema (docs : DocComment) (p : Param) : Logged Schema := do
  let property ← Schema.ofType p.type
  match p.description <|> docs.param p.name with
  | some description => return property.withDescription description
  | none => return property

/-- Adds a property for each argument from position `index` on; `seen` holds the names before. -/
def addArguments (docs : DocComment) (index : Nat) (seen : List String) (schema : Schema) :
    List Param → Logged (Except SchemaError Schema)
  | [] => return .ok schema
  | p :: ps => do
    if Text.isBlankText p.name then return .error (.emptyParameterName index)
    else if p.name ∈ seen then return .error (.duplicateParameter p.name)
    else
      let property ← propertySchema docs p
      match p.defaultValue with
      | .error cause => return .error cause
      | .ok none =>
        addArguments docs (index + 1) (p.name :: seen) (schema.withProperty p.name property true) ps
      | .ok (some value) =>
        addArguments docs (index + 1) (p.name :: seen)
          (schema.withProperty p.name (property.withDefault value) false) ps

/-- Object schema of a signature, described by the first line of its documentation. -/
def trySchema (s : Signature) : Logged (Except SchemaError Schema) := do
  let docs := s.docComment
  match ← addArguments docs 0 [] .object s.arguments, docs.summary with
  | .error cause, _ => return .error cause
  | .ok schema, some summary => return .ok (schema.withDescription summary)
  | .ok schema, none => return .ok schema

/-- Object schema of a signature, permissive if none can be derived. -/
def schema (s : Signature) : Logged Schema := do
  match ← s.trySchema with
  | .ok schema => return schema
  | .error cause =>
    .emit (.schemaFailed s.name cause)
    return .permissive

/-! ## Binding -/

/-- Binds the arguments in order.  `supplied` holds the caller's values that are not used up,
`bound` the values bound so far. -/
def bindParams : List Param → (supplied bound : Dict Json) →
    Except ArgumentFault (Dict Json × Dict Json)
  | [], supplied, bound => .ok (supplied, bound)
  | p :: ps, supplied, bound =>
    match supplied.find? p.name with
    | some value => bindParams ps (supplied.erase p.name) (bound.insert p.name value)
    | none =>
      match p.defaultValue with
      | .ok (some value) => bindParams ps supplied (bound.insert p.name value)
      | .ok none => .error (.missing p.name)
      | .error cause => .error (.unusableDefault cause)

/-- Binds the caller's values, none of which may be left over. -/
def bindAll (s : Signature) (args : Dict Json) : Except ArgumentFault (Dict Json) := do
  let (rest, bound) ← bindParams s.arguments args ∅
  match rest.keys.head? with
  | some name => .error (.unexpected name)
  | none => return bound

/-- Binds the caller's values; errors name the callable. -/
def bind (s : Signature) (args : Dict Json) : Except ToolError (Dict Json) :=
  (s.bindAll args).mapError (.invalidArguments s.name)

end Signature

end Toolbox
