import Toolbox.Registry.Operation

/-!
# The default registry

A host has at most one default registry.  It is created on first use, or before that with a
configuration of its own; unless configured otherwise it starts with the linked declarations.
-/

namespace Toolbox

/-- A host program: the declarations linked into it, and its default registry once there is one. -/
structure Host where
  linked : List Declaration
  registry : Option Registry := none

namespace Host

def build (linked : List Declaration) (settings : Settings) : Report Registry Unit :=
  let r : Registry := { settings }
  if settings.collectDeclared then
    (r.registerDeclared linked).andThen fun count r =>
      { answer := (), state := r, events := [.collectedDeclared count] }
  else { answer := (), state := r }

/-- The default registry, created if there is none. -/
def require (p : Host) : Report Registry Unit :=
  match p.registry with
  | some r => { answer := (), state := r }
  | none => build p.linked {}

def store {α : Type} (p : Host) (r : Report Registry α) : Report Host α :=
  { answer := r.answer, state := { p with registry := some r.state }, events := r.events
    deliveries := r.deliveries }

/-- Creates the default registry with a configuration, unless it exists. -/
def configure (p : Host) (settings : Settings) : Report Host (Except ToolError Settings) :=
  match p.registry with
  | some _ =>
    { answer := .error (.invalidConfiguration "default tool registry is already initialized")
      state := p }
  | none => p.store ((build p.linked settings).map fun _ => .ok settings)

/-- Works on the default registry. -/
def withRegistry {α : Type} (p : Host) (f : Registry → Report Registry α) : Report Host α :=
  p.store (p.require.andThen fun _ r => f r)

/-- Does one operation on the default registry. -/
def perform (p : Host) (o : Operation) : Report Host Answer :=
  p.withRegistry (·.perform o)

end Host

end Toolbox
