import Toolbox.Event

/-!
# Values

What the bodies of tools make of their arguments, and what becomes of their results.

A decoder reads a JSON value as a value of some type.  It says what it found and what it expected;
of several faults in a value the first one counts.

An output has the forms that its type has.  A value that can be encoded is encoded; one that cannot
is shown by its diagnostic text, and that is reported.  Other values are given by the text meant for
readers, or else by the diagnostic text.
-/

namespace Toolbox

/-! ## Arguments -/

abbrev Decoder (α : Type) := Json → Except DecodeError α

namespace Decoder

variable {α : Type}

/-- Refuses a value that is not of the expected kind. -/
def refuse (found : Json) (expected : String) : Except DecodeError α :=
  .error (.invalidType (.ofJson found) expected)

def any : Decoder Json := .ok

def unit : Decoder Unit
  | .null => .ok ()
  | j => refuse j "unit"

def boolean : Decoder Bool
  | .bool b => .ok b
  | j => refuse j "a boolean"

def text : Decoder String
  | .string s => .ok s
  | j => refuse j "a string"

/-- The name of a file. -/
def path : Decoder String
  | .string s => .ok s
  | j => refuse j "path string"

/-- Text of one character. -/
def character : Decoder Char
  | .string s =>
    match s.toList with
    | [c] => .ok c
    | _ => .error (.invalidValue (.string s) "a character")
  | j => refuse j "a character"

/-- An integer in a range; real numbers are refused, even whole ones. -/
def integer (type : String) (least greatest : Int) : Decoder Int
  | .number (.int n) =>
    if least ≤ n ∧ n ≤ greatest then .ok n
    else .error (.invalidValue (.number (.int n)) type)
  | j => refuse j type

/-- An integer of so many bits. -/
def unsigned (bits : Nat) : Decoder Int := integer s!"u{bits}" 0 (Int.pow 2 bits - 1)

/-- An integer of so many bits, one of them the sign. -/
def signed (bits : Nat) : Decoder Int :=
  integer s!"i{bits}" (-Int.pow 2 (bits - 1)) (Int.pow 2 (bits - 1) - 1)

/-- A binary64 number; integers are rounded to nearest. -/
def real : Decoder Float
  | .number n => .ok n.toFloat
  | j => refuse j "f64"

def optional (value : Decoder α) : Decoder (Option α)
  | .null => .ok none
  | j => some <$> value j

def list (items : Decoder α) : Decoder (List α)
  | .array js => js.mapM items
  | j => refuse j "a sequence"

def dict (values : Decoder α) : Decoder (Dict α)
  | .object members => do
    return .ofList (← members.mapM fun (name, j) => do return (name, ← values j))
  | j => refuse j "a map"

/-- A record of one field: an object that has it, whatever else it has, or an array of one. -/
def record (type field : String) (value : Decoder α) : Decoder α
  | .object members =>
    match findEntry field members with
    | some j => value j
    | none => .error (.missingField field)
  | .array [] => .error (.invalidLength 0 s!"{type} with 1 element")
  | .array (j :: js) => do
    let a ← value j
    if js.isEmpty then return a
    else throw (.invalidLength (js.length + 1) "fewer elements in array")
  | j => refuse j type

/-- A value with a name: the name, or an object with the name as its only member and null there. -/
def variant (variants : List (String × α)) (j : Json) : Except DecodeError α :=
  let named (name : String) : Except DecodeError α :=
    match variants.lookup name with
    | some a => .ok a
    | none => .error (.unknownVariant name (variants.map (·.1)))
  match j with
  | .string name => named name
  | .object [(name, payload)] => do
    let a ← named name
    unit payload
    return a
  | .object _ => .error (.invalidValue .map "map with a single key")
  | j => refuse j "string or map"

/-- What the first decoder makes of the value that can read it. -/
def firstOf (enumeration : String) (decoders : List (Decoder α)) (j : Json) :
    Except DecodeError α :=
  match decoders.findSome? fun d => (d j).toOption with
  | some a => .ok a
  | none => .error (.noMatchingVariant enumeration)

end Decoder

/-- Bound arguments of a tool, to be decoded. -/
structure Arguments where
  tool : String
  bound : Dict Json

/-- Decodes an argument; one that is missing counts as null. -/
def Arguments.get {α : Type} (a : Arguments) (name : String) (decode : Decoder α) :
    Except ToolError α :=
  (decode ((a.bound.find? name).getD .null)).mapError fun cause =>
    .invalidArguments a.tool (.undecodable name cause)

/-! ## Results -/

/-- A value that a tool returns. -/
inductive Output where
  /-- of a type with an encoding, and perhaps a diagnostic text; encoding fails for a reason -/
  | encoded (json : Except String Json) (diagnostic : Option String)
  /-- of a type with a text for readers -/
  | displayed (text : String)
  /-- of a type with a diagnostic text alone -/
  | diagnosed (text : String)

namespace Output

/-- A value with an encoding that cannot fail. -/
def ofJson (j : Json) : Output := .encoded (.ok j) none

def toJson : Output → Logged (Except ToolError Json)
  | encoded (.ok j) _ => pure (.ok j)
  | encoded (.error reason) (some diagnostic) => do
    .emit (.outputShown reason)
    return .ok (.string diagnostic)
  | encoded (.error reason) none =>
    pure (.error (.executionFailed s!"tool output could not be encoded: {reason}"))
  | displayed text | diagnosed text => pure (.ok (.string text))

/-- The outcome of a computation that fails with a text. -/
def ofOutcome : Except String Output → Except ToolError Output
  | .ok output => .ok output
  | .error reason => .error (.executionFailed reason)

end Output

end Toolbox
