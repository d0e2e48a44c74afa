import Toolbox.Dict
import Toolbox.Json.Number

/-!
# JSON values

An object is a list of named members.  Values that are read or built by this library are canonical:
the names of every object ascend strictly.  Equality is decidable.

A record is an object with its fields among the members, or an array of the fields in order.
Compact text has no blanks; quotes, backslashes and controls are escaped, every other character
stands for itself.
-/

namespace Toolbox

inductive Json where
  | null
  | bool (value : Bool)
  | number (value : JsonNumber)
  | string (value : String)
  | array (items : List Json)
  | object (members : List (String × Json))
  deriving Repr, Inhabited

namespace Json

def int (value : Int) : Json := .number (.int value)

/-- A binary64 number; numbers that are not finite have no JSON form and become null. -/
def real (value : Float) : Json := if value.isFinite then .number (.real value.toBits) else .null

/-- Object of the given members in ascending order; the later of two with one name counts. -/
def ofMembers (members : List (String × Json)) : Json := .object (sortEntries members)

def ofDict (d : Dict Json) : Json := .object d.entries

def ofText? : Option String → Json
  | none => .null
  | some s => .string s

/-! ## Equality -/

mutual

def decEq : (a b : Json) → Decidable (a = b)
  | .null, .null => isTrue rfl
  | .bool a, .bool b => decidable_of_iff (a = b) (by simp)
  | .number a, .number b => decidable_of_iff (a = b) (by simp)
  | .string a, .string b => decidable_of_iff (a = b) (by simp)
  | .array as, .array bs =>
    match decEqItems as bs with
    | isTrue h => isTrue (h ▸ rfl)
    | isFalse h => isFalse (fun h' => h (Json.array.inj h'))
  | .object as, .object bs =>
    match decEqMembers as bs with
    | isTrue h => isTrue (h ▸ rfl)
    | isFalse h => isFalse (fun h' => h (Json.object.inj h'))
  | .null, .bool _ | .null, .number _ | .null, .string _ | .null, .array _ | .null, .object _
  | .bool _, .null | .bool _, .number _ | .bool _, .string _ | .bool _, .array _
  | .bool _, .object _ | .number _, .null | .number _, .bool _ | .number _, .string _
  | .number _, .array _ | .number _, .object _ | .string _, .null | .string _, .bool _
  | .string _, .number _ | .string _, .array _ | .string _, .object _ | .array _, .null
  | .array _, .bool _ | .array _, .number _ | .array _, .string _ | .array _, .object _
  | .object _, .null | .object _, .bool _ | .object _, .number _ | .object _, .string _
  | .object _, .array _ => isFalse nofun

def decEqItems : (as bs : List Json) → Decidable (as = bs)
  | [], [] => isTrue rfl
  | [], _ :: _ | _ :: _, [] => isFalse nofun
  | a :: as, b :: bs =>
    match decEq a b, decEqItems as bs with
    | isTrue h, isTrue hs => isTrue (h ▸ hs ▸ rfl)
    | isFalse h, _ => isFalse (fun h' => h (List.cons.inj h').1)
    | _, isFalse hs => isFalse (fun h' => hs (List.cons.inj h').2)

def decEqMembers : (as bs : List (String × Json)) → Decidable (as = bs)
  | [], [] => isTrue rfl
  | [], _ :: _ | _ :: _, [] => isFalse nofun
  | (j, a) :: as, (k, b) :: bs =>
    match decEq a b, decEqMembers as bs with
    | isTrue h, isTrue hs =>
      if hk : j = k then isTrue (hk ▸ h ▸ hs ▸ rfl)
      else isFalse (fun h' => hk (Prod.mk.inj (List.cons.inj h').1).1)
    | isFalse h, _ => isFalse (fun h' => h (Prod.mk.inj (List.cons.inj h').1).2)
    | _, isFalse hs => isFalse (fun h' => hs (List.cons.inj h').2)

end

instance : DecidableEq Json := decEq

/-! ## Canonical values -/

mutual

/-- Whether the names of every object inside ascend strictly. -/
def Canonical : Json → Prop
  | .null | .bool _ | .number _ | .string _ => True
  | .array items => CanonicalItems items
  | .object members => Ascending members ∧ CanonicalMembers members

/-- Whether every element is canonical. -/
def CanonicalItems : List Json → Prop
  | [] => True
  | j :: js => j.Canonical ∧ CanonicalItems js

/-- Whether the value of every member is canonical. -/
def CanonicalMembers : List (String × Json) → Prop
  | [] => True
  | (_, j) :: ms => j.Canonical ∧ CanonicalMembers ms

end

/-! ## Records -/

/-- The fields `names` of a record, each `none` if it is missing.  Unknown members of an object do
not matter; an array may stop early and must not go on. -/
def record? (names : List String) : Json → Option (List (Option Json))
  | .object members => some (names.map (findEntry · members))
  | .array items =>
    if items.length ≤ names.length then
      some (items.map some ++ List.replicate (names.length - items.length) none)
    else none
  | _ => none

def text? : Json → Option String
  | .string s => some s
  | _ => none

def items? : Json → Option (List Json)
  | .array js => some js
  | _ => none

def bool? : Json → Option Bool
  | .bool b => some b
  | _ => none

def int? : Json → Option Int
  | .number (.int n) => some n
  | _ => none

/-! ## Compact text -/

/-- One character inside a JSON string. -/
def escape (c : Char) : List Char :=
  match c with
  | '"' => ['\\', '"']
  | '\\' => ['\\', '\\']
  | '\n' => ['\\', 'n']
  | '\r' => ['\\', 'r']
  | '\t' => ['\\', 't']
  | '\x08' => ['\\', 'b']
  | '\x0c' => ['\\', 'f']
  | c =>
    if c.toNat < 32 then
      let ds := Nat.toDigits 16 c.toNat
      ['\\', 'u'] ++ List.replicate (4 - ds.length) '0' ++ ds
    else [c]

def stringText (s : String) : String := String.ofList ('"' :: s.toList.flatMap escape ++ ['"'])

mutual

/-- Text of a value on one line. -/
def compact : Json → String
  | .null => "null"
  | .bool b => if b then "true" else "false"
  | .number n => n.text
  | .string s => stringText s
  | .array items => "[" ++ ",".intercalate (compactItems items) ++ "]"
  | .object members => "\x7b" ++ ",".intercalate (compactMembers members) ++ "\x7d"

def compactItems : List Json → List String
  | [] => []
  | j :: js => j.compact :: compactItems js

def compactMembers : List (String × Json) → List String
  | [] => []
  | (name, j) :: ms => (stringText name ++ ":" ++ j.compact) :: compactMembers ms

end

end Json

end Toolbox
