import Toolbox.Json.Basic

/-!
# JSON documents

A document is what JSON text spells out before it is given a value: members in the order of the
text, names possibly repeated.  Text can be well formed and still spell no value: a number beyond
binary64, or a string with half of a surrogate pair.  Such scalars and names are kept as `none`, so
that a reader may pass over the members it does not know.

`value?` gives the value of a document.  It refuses to enter more arrays and objects than the
nesting allows.
-/

namespace Toolbox

/-- What JSON text spells out. -/
inductive Document where
  | scalar (value : Option Json)
  | array (items : List Document)
  | object (members : List (Option String × Document))
  deriving Repr, Inhabited

/-- How much deeper arrays and objects may nest; `none` sets no bound. -/
abbrev Nesting := Option Nat

/-- The nesting that readers of text grant. -/
def Nesting.ofText : Nesting := some 128

/-- Nesting left inside an array or object, if it may be entered. -/
def Nesting.enter : Nesting → Option Nesting
  | none => some none
  | some n => if 2 ≤ n then some (some (n - 1)) else none

namespace Document

mutual

def value? (nesting : Nesting) : Document → Option Json
  | .scalar value => value
  | .array items => do
    let inner ← nesting.enter
    return .array (← itemValues? inner items)
  | .object members => do
    let inner ← nesting.enter
    return .ofMembers (← memberValues? inner members)

def itemValues? (nesting : Nesting) : List Document → Option (List Json)
  | [] => some []
  | d :: ds => do return (← d.value? nesting) :: (← itemValues? nesting ds)

def memberValues? (nesting : Nesting) : List (Option String × Document) →
    Option (List (String × Json))
  | [] => some []
  | (name, d) :: ds => do return (← name, ← d.value? nesting) :: (← memberValues? nesting ds)

end

mutual

/-- The document of a value. -/
def ofJson : Json → Document
  | .null => .scalar (some .null)
  | .bool b => .scalar (some (.bool b))
  | .number n => .scalar (some (.number n))
  | .string s => .scalar (some (.string s))
  | .array items => .array (ofItems items)
  | .object members => .object (ofMembers members)

def ofItems : List Json → List Document
  | [] => []
  | j :: js => ofJson j :: ofItems js

def ofMembers : List (String × Json) → List (Option String × Document)
  | [] => []
  | (name, j) :: ms => (some name, ofJson j) :: ofMembers ms

end

end Document

end Toolbox
