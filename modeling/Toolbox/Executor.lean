import Toolbox.Tool

/-!
# Executors

An executor runs the tools of a registry.  It is offered tools and takes or refuses each of them,
which may depend on what it was offered before.  It remembers its deliveries; of several offers
under one name that it took, it holds the last.
-/

namespace Toolbox

structure Offer where
  name : String
  description : String
  parameters : Schema
  invoker : Invoker
  category : String
  version : String
  enabled : Bool

/-- The offer of a tool as it stands. -/
def Tool.offer (t : Tool) : Offer :=
  { name := t.name, description := t.description, parameters := t.parameters, invoker := t.invoker,
    category := t.category, version := t.version, enabled := t.enabled }

/-- An offer that reached an executor, with the error if the executor refused it. -/
structure Delivery where
  executor : String
  offer : Offer
  refusal : Option ToolError

/-- An executor; `refuse` gives the error for an offer that it refuses after the deliveries so
far. -/
structure Executor where
  id : String
  refuse : List Delivery → Offer → Option ToolError
  deliveries : List Delivery := []

namespace Executor

/-- An executor that refuses the tools of the given names. -/
def refusing (id : String) (names : List String) : Executor where
  id
  refuse _ offer :=
    if offer.name ∈ names then some (.executorUnavailable s!"{id} refuses {offer.name}") else none

def receive (e : Executor) (offer : Offer) : Executor × Delivery :=
  let delivery := { executor := e.id, offer, refusal := e.refuse e.deliveries offer }
  ({ e with deliveries := e.deliveries ++ [delivery] }, delivery)

/-- The offer held under a name: the last one that was taken. -/
def held? (e : Executor) (name : String) : Option Offer :=
  (e.deliveries.reverse.find? fun d => d.offer.name == name && d.refusal.isNone).map (·.offer)

end Executor

end Toolbox
