import Toolbox.Registry.Basic

/-!
# Registrations

A registration holds the options from which a tool is made for an invoker.  Unless parameters are
given they are derived from the signature, or left permissive if derivation is switched off; unless
a name is given it is the signature's.

A declaration describes a tool before any registry exists.  A program links any number of them; a
registry can take them all, passing over those that are not valid.
-/

namespace Toolbox

/-- Options from which a tool is made. -/
structure Registration where
  description : String
  parameters : Option Schema := none
  name : Option String := none
  category : String := defaultCategory
  version : String := defaultVersion
  enabled : Bool := true
  autoSchema : Bool := true
  autoRegister : Bool := true
  provenance : Option Provenance := none

namespace Registration

/-- The parameter schema: given, else derived, else permissive. -/
def resolveSchema (g : Registration) (s : Signature) : Logged Schema :=
  match g.parameters with
  | some parameters => pure parameters
  | none => if g.autoSchema then s.schema else pure .permissive

/-- The tool made for an invoker. -/
def toTool (g : Registration) (invoker : Invoker) : Logged Tool := do
  let parameters ← g.resolveSchema invoker.signature
  return {
    name := g.name.getD invoker.signature.name
    description := g.description
    parameters
    category := g.category
    version := g.version
    enabled := g.enabled
    autoRegister := g.autoRegister
    invoker
    provenance := g.provenance }

def registerIn (g : Registration) (r : Registry) (invoker : Invoker) :
    Report Registry (Except ToolError Tool) :=
  let tool := g.toTool invoker
  (r.register tool.value).after tool.events

end Registration

/-- A callable with the tool it was registered as. -/
structure RegisteredCallable (F : Type) where
  callable : F
  tool : Tool

/-- Makes a tool, registers it and wraps the callable. -/
def Registration.wrapIn {F : Type} (g : Registration) (r : Registry) (callable : F)
    (invoker : Invoker) : Report Registry (Except ToolError (RegisteredCallable F)) :=
  (g.registerIn r invoker).map fun answer => answer.map fun tool => ⟨callable, tool⟩

/-! ## Declarations -/

structure Declaration where
  name : String
  description : String
  category : String := defaultCategory
  version : String := defaultVersion
  enabled : Bool := true
  autoSchema : Bool := true
  autoRegister : Bool := true
  /-- parameters given explicitly, in place of derived ones -/
  parameters : Option Schema := none
  signature : Signature
  body : Dict Json → Logged (Except ToolError Json)
  sourceFile : String
  /-- line of the name of the function -/
  sourceLine : UInt32
  modulePath : String

namespace Declaration

def provenance (d : Declaration) : Provenance := ⟨d.sourceFile, d.sourceLine⟩

/-- Invoker over the declared body. -/
def invoker (d : Declaration) : Invoker := ⟨d.signature, d.body⟩

/-- The registration with the same options. -/
def registration (d : Declaration) : Registration where
  description := d.description
  parameters := d.parameters
  name := some d.name
  category := d.category
  version := d.version
  enabled := d.enabled
  autoSchema := d.autoSchema
  autoRegister := d.autoRegister
  provenance := some d.provenance

/-- Parameters as they would be registered. -/
def schema (d : Declaration) : Logged Schema := d.registration.resolveSchema d.signature

def registerIn (d : Declaration) (r : Registry) : Report Registry (Except ToolError Tool) :=
  d.registration.registerIn r d.invoker

end Declaration

/-- Registers declarations in turn and answers how many were valid; the others are reported. -/
def Registry.registerDeclared (r : Registry) : List Declaration → Report Registry Nat
  | [] => { answer := 0, state := r }
  | d :: ds =>
    (d.registerIn r).andThen fun answer r =>
      match answer with
      | .ok _ => (r.registerDeclared ds).map (· + 1)
      | .error cause =>
        (r.registerDeclared ds).after
          [.invalidDeclaration d.name d.sourceFile d.sourceLine cause]

end Toolbox
