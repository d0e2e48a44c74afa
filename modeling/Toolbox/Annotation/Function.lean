import Toolbox.Annotation.Attribute
import Toolbox.Annotation.Outline
import Toolbox.Text.Case
import Toolbox.Text.Basic

/-!
# Annotated functions

Functions as they are declared, with the attributes that make tools of them: one on the function,
and any number on each of its parameters.
-/

namespace Toolbox

structure DeclaredParam where
  pattern : List Token
  type : TypeExpr
  attributes : List Attribute := []

structure DeclaredFunction where
  /-- the name, with its mark if it is a raw identifier -/
  name : String
  attributes : List Attribute := []
  visibility : List Token := []
  isConst : Bool := false
  isAsync : Bool := false
  isUnsafe : Bool := false
  abi : Option String := none
  /-- what stands in angle brackets behind the name -/
  generics : List Token := []
  constraints : Option (List Token) := none
  receiver : Option (List Token) := none
  params : List DeclaredParam := []
  isVariadic : Bool := false
  returns : Option TypeExpr := none
  /-- what stands in the braces of the body -/
  body : List Token := []

/-! ## Options -/

structure ToolAttributes where
  description : Option String := none
  name : Option String := none
  category : Option String := none
  version : Option String := none
  enabled : Option Bool := none
  autoSchema : Option Bool := none
  autoRegister : Option Bool := none
  /-- the function that makes the parameter schema -/
  parameters : Option (List Token) := none
  deriving DecidableEq, Repr

namespace ToolAttributes

open AttributeReader

def item (key : NamePath) (a : ToolAttributes) : AttributeReader ToolAttributes := do
  if key == .ofWord "description" then
    return { a with description := some (← valueOnce a.description Reader.text) }
  else if key == .ofWord "name" then
    return { a with name := some (← valueOnce a.name Reader.text) }
  else if key == .ofWord "category" then
    return { a with category := some (← valueOnce a.category Reader.text) }
  else if key == .ofWord "version" then
    return { a with version := some (← valueOnce a.version Reader.text) }
  else if key == .ofWord "enabled" then
    return { a with enabled := some (← valueOnce a.enabled Reader.boolean) }
  else if key == .ofWord "auto_schema" then
    return { a with autoSchema := some (← valueOnce a.autoSchema Reader.boolean) }
  else if key == .ofWord "auto_register" then
    return { a with autoRegister := some (← valueOnce a.autoRegister Reader.boolean) }
  else if key == .ofWord "parameters" then
    return { a with parameters := some (← valueOnce a.parameters Reader.path) }
  else throw .unknownToolProperty

def read (items : List AttributeItem) : Except AttributeFault ToolAttributes :=
  match AttributeReader.read item {} items with
  | (attributes, none) => .ok attributes
  | (_, some fault) => .error fault

end ToolAttributes

structure ParamOptions where
  /-- an expression for the default -/
  default : Option WrittenExpression := none
  description : Option String := none
  deriving DecidableEq, Repr

namespace ParamOptions

open AttributeReader

def item (key : NamePath) (o : ParamOptions) : AttributeReader ParamOptions := do
  if key == .ofWord "default" then
    let (form, tokens) ← valueOnce (o.default.map fun e => (e.form, e.tokens)) Reader.expression
    return { o with default := some { form, tokens } }
  else if key == .ofWord "description" then
    return { o with description := some (← valueOnce o.description Reader.text) }
  else throw .unknownParamProperty

/-- Reads attribute after attribute; every faulty one is reported, and what was found before a
fault counts for the attributes that follow. -/
def readFrom (found : ParamOptions) : List Attribute → ParamOptions × List AttributeFault
  | [] => (found, [])
  | a :: attributes =>
    if a.isNamed "param" then
      match readAttribute item found a with
      | (found, none) => readFrom found attributes
      | (found, some fault) =>
        let (options, faults) := readFrom found attributes
        (options, fault :: faults)
    else readFrom found attributes

def read (attributes : List Attribute) : Except (List AttributeFault) ParamOptions :=
  match readFrom {} attributes with
  | (options, []) => .ok options
  | (_, faults) => .error faults

end ParamOptions

/-! ## Parts of functions -/

namespace DeclaredParam

/-- The name that the parameter binds, if its pattern is a plain identifier, perhaps `mut`. -/
def identifier? (p : DeclaredParam) : Option String :=
  match p.pattern with
  | [.word w] | [.word "mut", .word w] => if w ∈ Token.keywords then none else some w
  | _ => none

/-- Whether the parameter is the receiver of a method, written like any other parameter. -/
def isReceiver (p : DeclaredParam) : Bool :=
  match p.pattern with
  | [.word w] | [.word "mut", .word w] => w == "self"
  | _ => false

/-- The parameter without its options. -/
def stripped (p : DeclaredParam) : DeclaredParam :=
  { p with attributes := p.attributes.filter (!·.isNamed "param") }

end DeclaredParam

/-- An identifier without the mark of raw identifiers. -/
def unmarked (identifier : String) : String :=
  match identifier.toList with
  | 'r' :: '#' :: rest => String.ofList rest
  | _ => identifier

namespace DeclaredFunction

def dropSpace : List Char → List Char
  | ' ' :: rest => rest
  | line => line

/-- The text that an attribute documents with, if it has the form `doc = "text"`. -/
def docOf? (a : Attribute) : Option String :=
  match a.form with
  | .value ⟨.text text, _⟩ => if a.isNamed "doc" then some text else none
  | _ => none

/-- The documentation: the texts of all doc attributes, line by line, each line without the one
space that stands before it. -/
def docText (attributes : List Attribute) : List Char :=
  Text.joinLines <| (attributes.filterMap docOf?).flatMap fun text =>
    (text.toList.splitOn '\n').map dropSpace

/-- The name in camel case with a capital, from a name with underscores. -/
def pascalCase (name : List Char) : List Char := (name.splitOn '_').flatMap Text.capitalize

end DeclaredFunction

end Toolbox
