import Toolbox.Registration

/-!
# Operations

The operations of a registry as data, with the answer of each.  `Registry.perform` does one and
`Registry.run` does several in turn.
-/

namespace Toolbox

inductive Operation where
  | register (tool : Tool)
  | submit (registration : Registration) (invoker : Invoker)
  | declare (declaration : Declaration)
  | registerDeclared (declarations : List Declaration)
  | unregister (name : String)
  | setEnabled (name : String) (enabled : Bool)
  | clear
  | attach (executor : Executor)
  | detach
  | invoke (name : String) (input : Json)
  | find (name : String)
  | contains (name : String)
  | names (category : Option String)
  | categoryNames
  | definitions
  | size
  | settings
  | debugText

inductive Answer where
  | done
  | flag (value : Bool)
  | count (value : Nat)
  | size (value : Nat) (empty : Bool)
  | registered (result : Except ToolError Tool)
  | found (tool : Option Tool)
  | names (names : List String)
  | definitions (definitions : List Definition)
  | detached (executor : Option Executor)
  | output (result : Except ToolError Json)
  | settings (settings : Settings)
  | text (text : String)

namespace Registry

/-- A report that leaves the registry as it is. -/
def reply (r : Registry) (answer : Answer) : Report Registry Answer := { answer, state := r }

def perform (r : Registry) : Operation → Report Registry Answer
  | .register tool => (r.register tool).map .registered
  | .submit registration invoker => (registration.registerIn r invoker).map .registered
  | .declare declaration => (declaration.registerIn r).map .registered
  | .registerDeclared declarations => (r.registerDeclared declarations).map .count
  | .unregister name => (r.unregister name).map .flag
  | .setEnabled name enabled => (r.setEnabled name enabled).map .flag
  | .clear => r.clear.map fun _ => .done
  | .attach executor => (r.attach executor).map .count
  | .detach => r.detach.map .detached
  | .invoke name input =>
    let output := r.invoke name input
    (r.reply (.output output.value)).after output.events
  | .find name => r.reply (.found (r.find? name))
  | .contains name => r.reply (.flag (r.contains name))
  | .names category => r.reply (.names (r.names category))
  | .categoryNames => r.reply (.names r.categoryNames)
  | .definitions => r.reply (.definitions r.definitions)
  | .size => r.reply (.size r.size r.isEmpty)
  | .settings => r.reply (.settings r.settings)
  | .debugText => r.reply (.text r.debugText)

/-- Does operations in turn; answers all their answers. -/
def run (r : Registry) : List Operation → Report Registry (List Answer)
  | [] => { answer := [], state := r }
  | o :: os => (r.perform o).andThen fun answer r => (r.run os).map (answer :: ·)

end Registry

end Toolbox
