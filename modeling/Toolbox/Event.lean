import Toolbox.Error

/-!
# Events

What the library reports while it works.  A computation that reports is a `Logged` value: its
result with the events in the order in which they were raised.
-/

namespace Toolbox

inductive Level where
  | info
  | warn
  | debug
  deriving DecidableEq, Repr

def Level.name : Level → String
  | info => "INFO"
  | warn => "WARN"
  | debug => "DEBUG"

inductive Event where
  /-- a type nothing is known about was described as a string -/
  | unsupportedType (name : String)
  | schemaFailed (callable : String) (cause : SchemaError)
  | registered (tool category : String)
  | reregistered (tool category previous : String)
  | unregistered (tool : String)
  | enablementChanged (tool : String) (enabled : Bool)
  | cleared (count : Nat)
  | bridged (tool : String)
  | bridgingFailed (tool : String) (cause : ToolError)
  /-- there was no executor to bridge to; the level is configured -/
  | registeredLocally (level : Level) (tool : String) (cause : ToolError)
  | invalidDeclaration (tool sourceFile : String) (sourceLine : UInt32) (cause : ToolError)
  | collectedDeclared (count : Nat)
  /-- an output has no JSON form and was shown by its diagnostic text -/
  | outputShown (reason : String)
  deriving DecidableEq, Repr

namespace Event

def level : Event → Level
  | registered .. | reregistered .. | unregistered _ | cleared _ => .info
  | unsupportedType _ | schemaFailed .. | bridgingFailed .. | invalidDeclaration .. => .warn
  | enablementChanged .. | bridged _ | collectedDeclared _ | outputShown _ => .debug
  | registeredLocally level _ _ => level

def message : Event → String
  | unsupportedType _ => "unsupported parameter type; falling back to string schema"
  | schemaFailed .. => "schema generation failed; tool will accept any parameters"
  | registered .. => "tool registered"
  | reregistered .. => "tool re-registered"
  | unregistered _ => "tool unregistered"
  | enablementChanged .. => "tool enablement changed"
  | cleared _ => "tool registry cleared"
  | bridged _ => "tool bridged into execution runtime"
  | bridgingFailed .. =>
    "failed to bridge tool into execution runtime; keeping local registration"
  | registeredLocally .. => "tool registered locally only"
  | invalidDeclaration .. => "skipping invalid tool declaration"
  | collectedDeclared _ => "collected declared tools into default registry"
  | outputShown _ => "tool output is not JSON-safe; returning its debug form"

def fields : Event → List (String × Json)
  | unsupportedType name => [("type_name", .string name)]
  | schemaFailed callable cause =>
    [("callable", .string callable), ("error", .string cause.message)]
  | registered tool category => [("tool", .string tool), ("category", .string category)]
  | reregistered tool category previous =>
    [("tool", .string tool), ("category", .string category),
      ("previous_category", .string previous)]
  | unregistered tool => [("tool", .string tool)]
  | enablementChanged tool enabled => [("tool", .string tool), ("enabled", .bool enabled)]
  | cleared count => [("count", .int count)]
  | bridged tool => [("tool", .string tool)]
  | bridgingFailed tool cause | registeredLocally _ tool cause =>
    [("tool", .string tool), ("error", .string cause.message)]
  | invalidDeclaration tool sourceFile sourceLine cause =>
    [("tool", .string tool), ("source_file", .string sourceFile),
      ("source_line", .int sourceLine.toNat), ("error", .string cause.message)]
  | collectedDeclared count => [("count", .int count)]
  | outputShown reason => [("error", .string reason)]

def toJson (e : Event) : Json :=
  .ofMembers [("level", .string e.level.name), ("message", .string e.message),
    ("fields", .ofMembers e.fields)]

end Event

/-- A result with the events raised on the way, in order. -/
structure Logged (α : Type) where
  value : α
  events : List Event := []

namespace Logged

instance : Monad Logged where
  pure a := ⟨a, []⟩
  bind x f := ⟨(f x.value).value, x.events ++ (f x.value).events⟩

def emit (e : Event) : Logged Unit := ⟨(), [e]⟩

variable {α β : Type}

@[simp] theorem value_pure (a : α) : (pure a : Logged α).value = a := rfl

@[simp] theorem events_pure (a : α) : (pure a : Logged α).events = [] := rfl

@[simp] theorem value_bind (x : Logged α) (f : α → Logged β) :
    (x >>= f).value = (f x.value).value := rfl

@[simp] theorem events_bind (x : Logged α) (f : α → Logged β) :
    (x >>= f).events = x.events ++ (f x.value).events := rfl

@[simp] theorem value_map (x : Logged α) (f : α → β) : (f <$> x).value = f x.value := rfl

@[simp] theorem events_map (x : Logged α) (f : α → β) : (f <$> x).events = x.events := by
  show x.events ++ [] = x.events
  exact List.append_nil _

@[simp] theorem events_emit (e : Event) : (emit e).events = [e] := rfl

end Logged

end Toolbox
