import Toolbox.Executor

/-!
# Registries

A catalogue holds tools by name, together with an index of their names by category.  The two are
changed together: no category is left empty.

A registry holds a catalogue of valid tools and may have an executor attached, to which it hands the
tools that ask for it.  Handing over happens after the catalogue is changed and never fails the
operation.  Every operation answers with a report: the answer, the registry afterwards, the events
and the deliveries, each in order.

Names, categories and definitions are answered in ascending order because that is the order of the
entries of a `Dict`; there is nothing left to sort.
-/

namespace Toolbox

structure Settings where
  /-- the default registry collects the linked declarations when it is created -/
  collectDeclared : Bool := true
  /-- registering without an executor is a warning, not a debugging event -/
  warnWithoutExecutor : Bool := true
  deriving DecidableEq, Repr

namespace Settings

/-- Level of the event for a tool that is registered without an executor. -/
def localLevel (c : Settings) : Level := if c.warnWithoutExecutor then .warn else .debug

/-- A setting; one that is missing is switched on. -/
def setting? : Option Json → Option Bool
  | none => some true
  | some j => j.bool?

def ofJson? (j : Json) : Option Settings := do
  match ← j.record? ["collect_declared", "warn_without_runtime"] with
  | [collect, warn] => return ⟨← setting? collect, ← setting? warn⟩
  | _ => none

def toJson (c : Settings) : Json :=
  .object [("collect_declared", .bool c.collectDeclared),
    ("warn_without_runtime", .bool c.warnWithoutExecutor)]

def debugText (c : Settings) : String :=
  "RegistryConfig \x7b collect_declared: " ++ toString c.collectDeclared
    ++ ", warn_without_runtime: " ++ toString c.warnWithoutExecutor ++ " \x7d"

end Settings

/-! ## Catalogues -/

abbrev NameSet := Dict Unit

/-- Tools by name, and names by category. -/
structure Catalogue where
  tools : Dict Tool := ∅
  categories : Dict NameSet := ∅

namespace Catalogue

/-- Enters a name under a category. -/
def enterName (index : Dict NameSet) (category name : String) : Dict NameSet :=
  index.insert category (((index.find? category).getD ∅).insert name ())

/-- Removes a name from a category, and the category if nothing is left in it. -/
def forgetName (index : Dict NameSet) (category name : String) : Dict NameSet :=
  match index.find? category with
  | none => index
  | some names =>
    let rest := names.erase name
    if rest.isEmpty then index.erase category else index.insert category rest

/-- Stores a tool under its name; gives the tool it replaces. -/
def insert (c : Catalogue) (t : Tool) : Option Tool × Catalogue :=
  let previous := c.tools.find? t.name
  let index := match previous with
    | some p => forgetName c.categories p.category t.name
    | none => c.categories
  (previous, ⟨c.tools.insert t.name t, enterName index t.category t.name⟩)

/-- Removes a tool, if there is one of that name. -/
def remove? (c : Catalogue) (name : String) : Option Catalogue :=
  (c.tools.find? name).map fun t =>
    ⟨c.tools.erase name, forgetName c.categories t.category name⟩

/-- Sets whether a tool is enabled, if there is one of that name. -/
def setEnabled? (c : Catalogue) (name : String) (enabled : Bool) : Option Catalogue :=
  (c.tools.find? name).map fun t => { c with tools := c.tools.insert name { t with enabled } }

/-- Names of a category in ascending order. -/
def namesIn (c : Catalogue) (category : String) : List String :=
  ((c.categories.find? category).map (·.keys)).getD []

end Catalogue

/-! ## Operations -/

/-- What an operation on a state answers and leaves behind. -/
structure Report (σ α : Type) where
  answer : α
  state : σ
  events : List Event := []
  deliveries : List Delivery := []

namespace Report

variable {σ τ α β : Type}

/-- Changes the answer. -/
def map (f : α → β) (r : Report σ α) : Report σ β := { r with answer := f r.answer }

/-- Goes on from the answer and the state. -/
def andThen (r : Report σ α) (f : α → σ → Report σ β) : Report σ β :=
  let next := f r.answer r.state
  { next with events := r.events ++ next.events, deliveries := r.deliveries ++ next.deliveries }

/-- Events that precede the report. -/
def after (events : List Event) (r : Report σ α) : Report σ α :=
  { r with events := events ++ r.events }

end Report

structure Registry where
  catalogue : Catalogue := {}
  executor : Option Executor := none
  settings : Settings := {}

namespace Registry

/-- Hands an offer to the executor, if there is one. -/
def bridge (r : Registry) (offer : Offer) : Report Registry Unit :=
  match r.executor with
  | none =>
    let cause := .executorUnavailable "no execution runtime attached"
    { answer := (), state := r
      events := [.registeredLocally r.settings.localLevel offer.name cause] }
  | some executor =>
    let (executor, delivery) := executor.receive offer
    { answer := (), state := { r with executor := some executor }
      events := [match delivery.refusal with
        | none => .bridged offer.name
        | some cause => .bridgingFailed offer.name cause]
      deliveries := [delivery] }

/-- Hands over several offers in turn. -/
def bridgeAll (r : Registry) : List Offer → Report Registry Unit
  | [] => { answer := (), state := r }
  | offer :: offers => (r.bridge offer).andThen fun _ r => r.bridgeAll offers

/-- Event for a tool that was stored in place of `previous`. -/
def storedEvent (t : Tool) : Option Tool → Event
  | none => .registered t.name t.category
  | some previous => .reregistered t.name t.category previous.category

/-- Registers a tool, in place of one with its name if there is one. -/
def register (r : Registry) (t : Tool) : Report Registry (Except ToolError Tool) :=
  match t.validate with
  | .error e => { answer := .error e, state := r }
  | .ok () =>
    let (previous, catalogue) := r.catalogue.insert t
    let r := { r with catalogue }
    let bridging := if t.autoRegister then r.bridge t.offer else { answer := (), state := r }
    (bridging.map fun _ => .ok t).after [storedEvent t previous]

/-- Attaches an executor and hands over every tool that asks for it; answers their number. -/
def attach (r : Registry) (executor : Executor) : Report Registry Nat :=
  let pending := (r.catalogue.tools.values.filter (·.autoRegister)).map Tool.offer
  ({ r with executor := some executor }.bridgeAll pending).map fun _ => pending.length

/-- Detaches the executor; answers the one that was attached. -/
def detach (r : Registry) : Report Registry (Option Executor) :=
  { answer := r.executor, state := { r with executor := none } }

/-- Removes a tool; answers whether there was one of that name. -/
def unregister (r : Registry) (name : String) : Report Registry Bool :=
  match r.catalogue.remove? name with
  | none => { answer := false, state := r }
  | some catalogue =>
    { answer := true, state := { r with catalogue }, events := [.unregistered name] }

/-- Sets whether a tool is enabled; answers whether there is one of that name. -/
def setEnabled (r : Registry) (name : String) (enabled : Bool) : Report Registry Bool :=
  match r.catalogue.setEnabled? name enabled with
  | none => { answer := false, state := r }
  | some catalogue =>
    { answer := true, state := { r with catalogue }, events := [.enablementChanged name enabled] }

def clear (r : Registry) : Report Registry Unit :=
  { answer := (), state := { r with catalogue := {} }
    events := [.cleared r.catalogue.tools.size] }

/-! ## Reading -/

def find? (r : Registry) (name : String) : Option Tool := r.catalogue.tools.find? name

def contains (r : Registry) (name : String) : Bool := r.catalogue.tools.contains name

/-- Names of the tools, of one category if asked for, in ascending order. -/
def names (r : Registry) : Option String → List String
  | none => r.catalogue.tools.keys
  | some category => r.catalogue.namesIn category

/-- Categories in ascending order. -/
def categoryNames (r : Registry) : List String := r.catalogue.categories.keys

/-- Definitions of the enabled tools, in ascending order of their names. -/
def definitions (r : Registry) : List Definition :=
  (r.catalogue.tools.values.filter (·.enabled)).map Tool.definition

def size (r : Registry) : Nat := r.catalogue.tools.size

def isEmpty (r : Registry) : Bool := r.catalogue.tools.isEmpty

def invoke (r : Registry) (name : String) (input : Json) : Logged (Except ToolError Json) :=
  match r.find? name with
  | none => pure (.error (.unknownTool name))
  | some t => if t.enabled then t.invoker.invoke input else pure (.error (.disabledTool name))

def debugText (r : Registry) : String :=
  "ToolRegistry \x7b registered: " ++ Text.quotedList (r.names none) ++ ", categories: "
    ++ Text.quotedList r.categoryNames ++ ", runtime: " ++ toString r.executor.isSome
    ++ ", config: " ++ r.settings.debugText ++ " \x7d"

end Registry

end Toolbox
