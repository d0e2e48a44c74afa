import Toolbox.Annotation.Function
import Toolbox.Registration

/-!
# Expansion of annotated functions

An annotated function expands to itself, without the options of its parameters, and to a
declaration under a companion name.  The declaration has one parameter for each of the function's;
its body decodes one argument for each, in order, and then calls the function with all of them.
-/

namespace Toolbox

/-- Why an annotated function does not expand. -/
inductive ExpansionFault where
  | ofAttribute (fault : AttributeFault)
  | ofType (fault : TypeFault)
  | unsafeFunction
  | genericFunction
  | variadicFunction
  | boundedResult
  | method
  | destructured
  | noDescription
  /-- the companion would have a name that is no word -/
  | illegalCompanion (name : String)
  deriving DecidableEq, Repr

def ExpansionFault.message : ExpansionFault → String
  | ofAttribute fault => fault.message
  | ofType fault => fault.message
  | unsafeFunction => "tools cannot be `unsafe fn`"
  | genericFunction => "tools cannot be generic; declare concrete parameter types"
  | variadicFunction => "tools cannot be variadic"
  | boundedResult => "tools cannot return `impl Trait`"
  | method => "tools must be free functions; `self` parameters are not supported"
  | destructured => "tool parameters must be plain identifiers"
  | noDescription =>
    "tools need a description: add a doc comment or `#[tool(description = \"...\")]`"
  | illegalCompanion name => s!"{Text.quoted name} is not a valid Ident"

/-- A parameter that can be expanded. -/
structure Argument where
  identifier : String
  type : TypeExpr
  outline : Outline
  options : ParamOptions

/-- A default as it is expanded. -/
inductive DefaultSource where
  | text (value : String)
  /-- an expression of the type that the parameter is decoded as -/
  | typed (type source : List Token)
  deriving DecidableEq, Repr

/-- A parameter of the expanded signature. -/
structure ExpandedParam where
  name : String
  outline : Outline
  default : Option DefaultSource
  description : Option String

/-- A step of the expanded body: takes an argument out of a map, decodes it and binds it. -/
structure Binding where
  identifier : String
  /-- name of the map -/
  source : String
  argument : String
  type : List Token
  deriving DecidableEq, Repr

namespace Argument

/-- The name callers use. -/
def name (a : Argument) : String := unmarked a.identifier

/-- The default as it is expanded. -/
def defaultSource? (a : Argument) : Option DefaultSource :=
  a.options.default.map fun e =>
    match e.form with
    | .text value => .text value
    | _ => .typed a.type.owned e.tokens

def param (a : Argument) : ExpandedParam where
  name := a.name
  outline := a.outline
  default := a.defaultSource?
  description := a.options.description

/-- The name under which the expanded body has its arguments. -/
def mapName : String := "__args"

/-- The step that decodes the argument. -/
def binding (a : Argument) : Binding where
  identifier := a.identifier
  source := mapName
  argument := a.name
  type := a.type.owned

/-- The function that borrows the owned form of a type as that type, in tokens. -/
def borrow (referent : TypeExpr) : List Token :=
  [.mark '<'] ++ referent.ownedForm ++ [.word "as"]
    ++ (NamePath.rooted ["std", "borrow"] "Borrow").tokens ++ [.mark '<'] ++ referent.tokens
    ++ [.mark '>', .mark '>'] ++ NamePath.separator ++ [.word "borrow"]

/-- The expression that passes the bound value to the function, in tokens. -/
def passed (a : Argument) : List Token :=
  let borrowed := [.mark '(', .mark '&', .word a.identifier, .mark ')']
  match a.type with
  | .reference _ _ referent => borrow referent ++ borrowed
  | t =>
    match t.optionalReferent? with
    | some (_, referent) =>
      (NamePath.rooted ["core", "option", "Option"] "as_ref").tokens ++ borrowed
        ++ [.mark '.', .word "map", .mark '('] ++ borrow referent ++ [.mark ')']
    | none => [.word a.identifier]

end Argument

structure Companion where
  name : String
  visibility : List Token
  doc : String
  deriving DecidableEq, Repr

/-- The call at the end of the expanded body. -/
structure Call where
  function : String
  /-- the expressions that are passed, in tokens -/
  arguments : List (List Token)
  awaited : Bool
  deriving DecidableEq, Repr

/-- What an annotated function expands to. -/
structure Expansion where
  /-- the function as it is kept -/
  function : DeclaredFunction
  companion : Companion
  toolName : String
  description : String
  category : Option String
  version : Option String
  enabled : Bool
  autoSchema : Bool
  autoRegister : Bool
  parameters : Option (List Token)
  /-- name of the signature -/
  functionName : String
  doc : Option String
  arguments : List Argument

namespace Expansion

def params (e : Expansion) : List ExpandedParam := e.arguments.map (·.param)

def bindings (e : Expansion) : List Binding := e.arguments.map (·.binding)

def call (e : Expansion) : Call where
  function := e.function.name
  arguments := e.arguments.map (·.passed)
  awaited := e.function.isAsync

end Expansion

namespace DeclaredFunction

/-- Why a function cannot be a tool, whatever its parameters. -/
def fault? (f : DeclaredFunction) : Option ExpansionFault :=
  if f.isUnsafe then some .unsafeFunction
  else if !f.generics.isEmpty || f.constraints.isSome then some .genericFunction
  else if f.isVariadic then some .variadicFunction
  else
    match f.returns with
    | some (.bounded _) => some .boundedResult
    | _ => if f.receiver.isSome then some .method else none

/-- Checks a parameter. -/
def argument (p : DeclaredParam) : Except (List ExpansionFault) Argument := do
  if p.isReceiver then throw [.method]
  let options ← (ParamOptions.read p.attributes).mapError (·.map .ofAttribute)
  match p.identifier? with
  | none => throw [.destructured]
  | some identifier =>
    let outline ← p.type.outline.mapError fun fault => [.ofType fault]
    return { identifier, type := p.type, outline, options }

def argumentsOf : List DeclaredParam → Except (List ExpansionFault) (List Argument)
  | [] => .ok []
  | p :: ps => do return (← argument p) :: (← argumentsOf ps)

def companionName (f : DeclaredFunction) : String :=
  String.ofList (pascalCase (unmarked f.name).toList) ++ "Tool"

/-- What a function expands to once all of it has been checked. -/
def expansion (f : DeclaredFunction) (attributes : ToolAttributes) (arguments : List Argument)
    (description : String) : Expansion :=
  let functionName := unmarked f.name
  let doc := docText f.attributes
  { function := { f with params := f.params.map (·.stripped) }
    companion := {
      name := f.companionName
      visibility := f.visibility
      doc := s!"Declaration companion of the `{functionName}` tool." }
    toolName := attributes.name.getD functionName
    description
    category := attributes.category
    version := attributes.version
    enabled := attributes.enabled.getD true
    autoSchema := attributes.autoSchema.getD true
    autoRegister := attributes.autoRegister.getD true
    parameters := attributes.parameters
    functionName
    doc := if doc.isEmpty then none else some (String.ofList doc)
    arguments }

/-- Expands a function with the options of its tool. -/
def expand (f : DeclaredFunction) (attributes : ToolAttributes) :
    Except (List ExpansionFault) Expansion := do
  if let some fault := f.fault? then throw [fault]
  let arguments ← argumentsOf f.params
  let summary := (Text.firstLine (docText f.attributes)).map String.ofList
  match attributes.description.or summary with
  | none => throw [.noDescription]
  | some description =>
    unless Literal.isWord f.companionName.toList do throw [.illegalCompanion f.companionName]
    return f.expansion attributes arguments description

/-- Expands a function with the items of its attribute. -/
def expandWith (f : DeclaredFunction) (items : List AttributeItem) :
    Except (List ExpansionFault) Expansion := do
  f.expand (← (ToolAttributes.read items).mapError fun fault => [.ofAttribute fault])

end DeclaredFunction

/-! ## Declarations -/

/-- Where a function stands, and what the names in its expansion stand for there. -/
structure Scope where
  file : String
  /-- line of the name of the function -/
  line : UInt32
  modulePath : String
  /-- what a type accepts -/
  paramType : TypeExpr → ParamType
  /-- the value of an expression -/
  value : List Token → DefaultValue
  /-- the schema that a function makes -/
  schema : List Token → Schema

namespace ExpandedParam

def param (p : ExpandedParam) (scope : Scope) : Param where
  name := p.name
  type := p.outline.resolve scope.paramType
  default := p.default.map fun
    | .text value => .json (.string value)
    | .typed _ source => scope.value source
  description := p.description

end ExpandedParam

namespace Expansion

def signature (e : Expansion) (scope : Scope) : Signature where
  name := e.functionName
  doc := e.doc
  params := e.params.map (·.param scope)

/-- The declaration, with a body that decodes and calls. -/
def declaration (e : Expansion) (scope : Scope)
    (body : Dict Json → Logged (Except ToolError Json)) : Declaration where
  name := e.toolName
  description := e.description
  category := e.category.getD defaultCategory
  version := e.version.getD defaultVersion
  enabled := e.enabled
  autoSchema := e.autoSchema
  autoRegister := e.autoRegister
  parameters := e.parameters.map scope.schema
  signature := e.signature scope
  body
  sourceFile := scope.file
  sourceLine := scope.line
  modulePath := scope.modulePath

end Expansion

end Toolbox
