import Toolbox.Event
import Toolbox.Schema.Codec
import Toolbox.Signature
import Toolbox.Text.Visible

/-!
# Tools

A tool as it is submitted for registration and as it is stored.  `Tool.validate` accepts a tool
whose name is well formed, whose version and category are not blank, whose parameters are an object
schema that requires declared properties only, and whose signature is valid.

The invoker of a tool binds named arguments against a signature and then runs the body of the tool.
The body sees exactly one value for each argument.
-/

namespace Toolbox

/-- A signature with the body that runs on bound arguments.  A body answers and logs; it cannot act
on a registry, as it is given none. -/
structure Invoker where
  signature : Signature
  body : Dict Json → Logged (Except ToolError Json)

namespace Invoker

/-- Binds the arguments and runs the body. -/
def call (i : Invoker) (args : Dict Json) : Logged (Except ToolError Json) :=
  match i.signature.bind args with
  | .ok bound => i.body bound
  | .error e => pure (.error e)

/-- Calls with the members of an object; null stands for the empty object. -/
def invoke (i : Invoker) : Json → Logged (Except ToolError Json)
  | .object members => i.call (Dict.ofList members)
  | .null => i.call ∅
  | input => pure (.error (.invalidArguments i.signature.name (.notAnObject input)))

def debugText (i : Invoker) : String :=
  "ToolInvoker \x7b signature: " ++ Text.quoted i.signature.name ++ ", arguments: "
    ++ Text.quotedList (i.signature.arguments.map (·.name)) ++ ", .. \x7d"

end Invoker

/-- Where a tool was declared. -/
structure Provenance where
  location : String
  line : UInt32
  deriving DecidableEq, Repr

namespace Provenance

/-- Reads a place; the line fits 32 bits. -/
def ofJson? (j : Json) : Option Provenance := do
  match ← j.record? ["source_location", "source_line"] with
  | [some location, some line] =>
    let line ← line.int?
    if 0 ≤ line ∧ line < Int.pow 2 32 then return ⟨← location.text?, line.toNat.toUInt32⟩ else none
  | _ => none

def toJson (p : Provenance) : Json :=
  .object [("source_line", .int p.line.toNat), ("source_location", .string p.location)]

end Provenance

/-- What a language model is shown of a tool. -/
structure Definition where
  name : String
  description : String
  parameters : Schema
  deriving DecidableEq

namespace Definition

def ofJson? (j : Json) : Option Definition := do
  match ← j.record? ["name", "description", "parameters"] with
  | [some name, some description, some parameters] =>
    return ⟨← name.text?, ← description.text?, ← Schema.ofJson? parameters⟩
  | _ => none

def toJson (d : Definition) : Json :=
  .object [("description", .string d.description), ("name", .string d.name),
    ("parameters", d.parameters.toJson)]

end Definition

/-- Category of a tool for which none is given. -/
def defaultCategory : String := "general"

/-- Version of a tool for which none is given. -/
def defaultVersion : String := "1.0.0"

structure Tool where
  name : String
  description : String := ""
  parameters : Schema := .permissive
  category : String := defaultCategory
  version : String := defaultVersion
  /-- the tool is offered to the model -/
  enabled : Bool := true
  /-- the tool is handed to an attached executor -/
  autoRegister : Bool := true
  invoker : Invoker
  /-- where the tool was declared, if that is known -/
  provenance : Option Provenance := none

namespace Tool

/-- A character that a tool name may hold. -/
def isNameChar (c : Char) : Bool := c.isAlphanum || c == '_' || c == '-' || c == '.'

def nameFault? (name : String) : Option RegistrationFault :=
  if name.isEmpty then some .emptyToolName
  else if name.utf8ByteSize > maxNameBytes then some (.longToolName name)
  else if name.toList.all isNameChar then none
  else some (.illegalToolName name)

/-- First required name that is no property. -/
def undeclared? (parameters : Schema) : Option String :=
  parameters.requiredNames.find? fun name => (parameters.property name).isNone

def fault? (t : Tool) : Option RegistrationFault :=
  match nameFault? t.name with
  | some fault => some fault
  | none =>
    if Text.isBlankText t.version then some (.emptyVersion t.name)
    else if Text.isBlankText t.category then some (.emptyCategory t.name)
    else if t.parameters.effectiveKind ≠ some .object then some (.parametersNotObject t.name)
    else
      match undeclared? t.parameters with
      | some parameter => some (.undeclaredRequired t.name parameter)
      | none => t.invoker.signature.fault?

/-- Accepts a tool without faults. -/
def validate (t : Tool) : Except ToolError Unit :=
  match t.fault? with
  | none => .ok ()
  | some fault => .error (.invalidRegistration fault)

/-- What a language model is shown. -/
def definition (t : Tool) : Definition := ⟨t.name, t.description, t.parameters⟩

end Tool

end Toolbox
