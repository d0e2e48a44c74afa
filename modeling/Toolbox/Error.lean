import Toolbox.Json.Basic
import Toolbox.Text.Visible

/-!
# Errors

What can go wrong when tools are described, registered and invoked, as causes; `message` gives the
wording of each.
-/

namespace Toolbox

/-- Why no schema can be derived from a signature. -/
inductive SchemaError where
  /-- the argument at this position, receivers not counted, has a blank name -/
  | emptyParameterName (index : Nat)
  | duplicateParameter (name : String)
  /-- the declared default has no JSON form -/
  | unrepresentableDefault (name reason : String)
  deriving DecidableEq, Repr

def SchemaError.message : SchemaError → String
  | .emptyParameterName index => s!"parameter #{index} has an empty name"
  | .duplicateParameter name => s!"parameter `{name}` is declared more than once"
  | .unrepresentableDefault name reason =>
    s!"default for parameter `{name}` cannot be encoded: {reason}"

/-! ## Decoding -/

/-- What was found where something else was expected. -/
inductive Found where
  | null
  | bool (value : Bool)
  | number (value : JsonNumber)
  | string (value : String)
  | sequence
  | map
  deriving DecidableEq, Repr

namespace Found

/-- What a value counts as. -/
def ofJson : Json → Found
  | .null => null
  | .bool b => bool b
  | .number n => number n
  | .string s => string s
  | .array _ => sequence
  | .object _ => map

def message : Found → String
  | null => "null"
  | bool b => s!"boolean `{b}`"
  | number (.int n) => s!"integer `{n}`"
  | number (.real bits) => "floating point `" ++ JsonNumber.realText bits ++ "`"
  | string s => "string " ++ Text.quoted s
  | sequence => "sequence"
  | map => "map"

end Found

/-- Why a value does not decode. -/
inductive DecodeError where
  | invalidType (found : Found) (expected : String)
  | invalidValue (found : Found) (expected : String)
  | invalidLength (length : Nat) (expected : String)
  | missingField (name : String)
  | unknownVariant (name : String) (expected : List String)
  /-- no variant of the enumeration takes the value -/
  | noMatchingVariant (enumeration : String)
  deriving DecidableEq, Repr

namespace DecodeError

/-- Alternatives in back quotes. -/
def alternatives : List String → String
  | [] => "there are no variants"
  | [a] => s!"expected `{a}`"
  | [a, b] => s!"expected `{a}` or `{b}`"
  | names => "expected one of " ++ ", ".intercalate (names.map fun a => s!"`{a}`")

def message : DecodeError → String
  | invalidType found expected => s!"invalid type: {found.message}, expected {expected}"
  | invalidValue found expected => s!"invalid value: {found.message}, expected {expected}"
  | invalidLength length expected => s!"invalid length {length}, expected {expected}"
  | missingField name => s!"missing field `{name}`"
  | unknownVariant name expected => s!"unknown variant `{name}`, {alternatives expected}"
  | noMatchingVariant enumeration =>
    s!"data did not match any variant of untagged enum {enumeration}"

end DecodeError

/-! ## Registration and invocation -/

/-- Why a registration is refused. -/
inductive RegistrationFault where
  | emptyToolName
  | longToolName (tool : String)
  | illegalToolName (tool : String)
  | emptyVersion (tool : String)
  | emptyCategory (tool : String)
  | parametersNotObject (tool : String)
  | undeclaredRequired (tool parameter : String)
  | emptyParameterName (index : Nat) (signature : String)
  | misplacedReceiver (parameter signature : String)
  | duplicateParameter (parameter signature : String)
  /-- a reason given by whoever raised the fault -/
  | other (reason : String)
  deriving DecidableEq, Repr

/-- The longest name a tool may have, in bytes. -/
def maxNameBytes : Nat := 64

def RegistrationFault.message : RegistrationFault → String
  | .emptyToolName => "tool name cannot be empty"
  | .longToolName tool => s!"tool name `{tool}` must be at most {maxNameBytes} bytes"
  | .illegalToolName tool =>
    s!"tool name `{tool}` must contain only ASCII alphanumerics, dash, underscore, or dot"
  | .emptyVersion tool => s!"tool `{tool}` has an empty version"
  | .emptyCategory tool => s!"tool `{tool}` has an empty category"
  | .parametersNotObject tool => s!"parameters of tool `{tool}` must be an object schema"
  | .undeclaredRequired tool parameter =>
    s!"tool `{tool}` requires undeclared parameter `{parameter}`"
  | .emptyParameterName index signature => s!"parameter #{index} of `{signature}` has an empty name"
  | .misplacedReceiver parameter signature =>
    s!"receiver `{parameter}` of `{signature}` must be the first parameter"
  | .duplicateParameter parameter signature =>
    s!"parameter `{parameter}` of `{signature}` is declared more than once"
  | .other reason => reason

/-- Why arguments are refused. -/
inductive ArgumentFault where
  | missing (argument : String)
  | unusableDefault (cause : SchemaError)
  | unexpected (argument : String)
  | notAnObject (input : Json)
  | undecodable (argument : String) (cause : DecodeError)
  /-- a reason given by whoever raised the fault -/
  | other (reason : String)
  deriving DecidableEq, Repr

def ArgumentFault.message : ArgumentFault → String
  | .missing argument => s!"missing required argument `{argument}`"
  | .unusableDefault cause => cause.message
  | .unexpected argument => s!"unexpected argument `{argument}`"
  | .notAnObject input => s!"expected a JSON object of named arguments, got `{input.compact}`"
  | .undecodable argument cause => s!"argument `{argument}`: {cause.message}"
  | .other reason => reason

/-- Why a tool is not registered or not run, or how it failed. -/
inductive ToolError where
  | invalidRegistration (fault : RegistrationFault)
  | unknownTool (name : String)
  | disabledTool (name : String)
  | invalidArguments (tool : String) (fault : ArgumentFault)
  | executionFailed (reason : String)
  | executorUnavailable (reason : String)
  | invalidConfiguration (reason : String)
  deriving DecidableEq, Repr

def ToolError.message : ToolError → String
  | .invalidRegistration fault => s!"invalid tool registration: {fault.message}"
  | .unknownTool name => s!"tool `{name}` is not registered"
  | .disabledTool name => s!"tool `{name}` is disabled"
  | .invalidArguments tool fault => s!"invalid arguments for tool `{tool}`: {fault.message}"
  | .executionFailed reason => s!"tool execution failed: {reason}"
  | .executorUnavailable reason => s!"tool runtime unavailable: {reason}"
  | .invalidConfiguration reason => s!"invalid registry configuration: {reason}"

end Toolbox
