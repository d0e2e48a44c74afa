import Toolbox.Decimal.Shortest

/-!
# JSON numbers

A number is an integer or a binary64 number given by its bits, so that `1` and `1.0` differ and
equality is decidable.  Reading rounds the leading digits that fit 64 bits to binary64 and scales
them by powers of ten; an integer numeral outside the 64-bit ranges is read the same way.
-/

namespace Toolbox

inductive JsonNumber where
  | int (value : Int)
  | real (bits : UInt64)
  deriving DecidableEq, Repr

namespace JsonNumber

/-- Exponents of the first digit that are written positionally run from -5 to 15; other numbers
carry a signed exponent. -/
def layout : Decimal.Layout := ⟨-5, 15, "e", "+"⟩

/-- Text of a finite binary64 number: the shortest that reads back. -/
def realText (bits : UInt64) : String :=
  let n := bits.toNat
  let sign := if n / Nat.pow 2 63 = 1 then "-" else ""
  let biased : Nat := n / Nat.pow 2 52 % Nat.pow 2 11
  let fraction : Nat := n % Nat.pow 2 52
  if biased = 0 ∧ fraction = 0 then sign ++ "0.0"
  else
    let r := if biased = 0 then Decimal.Rounding.ofBinary fraction (-1074) false
      else Decimal.Rounding.ofBinary (Nat.pow 2 52 + fraction) ((biased : Int) - 1075)
        (fraction == 0 && biased != 1)
    match r.shortest? with
    | some s => sign ++ layout.write (s.stripZeros 17)
    | none => sign

def text : JsonNumber → String
  | int value => toString value
  | real bits => realText bits

/-- Integers that are kept as such: those of a signed or unsigned 64-bit word. -/
def fitsWord (value : Int) : Bool := -Int.pow 2 63 ≤ value && value < Int.pow 2 64

/-- The numeral of a JSON number: sign, digits before and after the point, exponent. -/
structure Numeral where
  negative : Bool
  whole : List Nat
  fraction : Option (List Nat)
  exponent : Option (Bool × List Nat)

/-- Digits taken into a significand while it fits 64 bits, with the digits left over. -/
def accumulate (significand : Nat) : List Nat → Nat × List Nat
  | [] => (significand, [])
  | d :: ds =>
    if significand * 10 + d < Nat.pow 2 64 then accumulate (significand * 10 + d) ds
    else (significand, d :: ds)

/-- Divides by powers of ten that are finite binary64 numbers, the largest first. -/
def scaleDown (x : Float) (e : Nat) : Float :=
  if e ≤ 308 then x / Float.ofScientific 1 false e
  else if x == 0.0 then x
  else scaleDown (x / Float.ofScientific 1 false 308) (e - 308)
termination_by e

/-- `significand · 10^exponent` as binary64, or `none` beyond its range. -/
def scale? (significand : Nat) (exponent : Int) : Option Float :=
  let x := Float.ofNat significand
  if exponent < 0 then some (scaleDown x (-exponent).toNat)
  else if exponent ≤ 308 then
    let y := x * Float.ofScientific 1 false exponent.toNat
    if y.isInf then none else some y
  else if significand = 0 then some x
  else none

def ofDigits (ds : List Nat) : Nat := ds.foldl (fun n d => n * 10 + d) 0

/-- Number of a numeral, or `none` beyond the range of binary64. -/
def ofNumeral? (n : Numeral) : Option JsonNumber :=
  let (significand, dropped) := accumulate 0 n.whole
  let real (significand : Nat) (exponent : Int) : Option JsonNumber :=
    (scale? significand exponent).map fun x => real (if n.negative then -x else x).toBits
  match n.fraction, n.exponent with
  | none, none =>
    let value : Int := if n.negative then -significand else significand
    if dropped.isEmpty && fitsWord value && !(n.negative && significand == 0) then some (int value)
    else real significand dropped.length
  | fraction, exponent =>
    let (significand, rest) := accumulate significand (fraction.getD [])
    let taken := (fraction.getD []).length - rest.length
    let shift : Int := match exponent with
      | none => 0
      | some (true, ds) => -ofDigits ds
      | some (false, ds) => ofDigits ds
    real significand (dropped.length - taken + shift)

/-- The number as binary64, an integer rounded to nearest. -/
def toFloat : JsonNumber → Float
  | int value => Float.ofInt value
  | real bits => Float.ofBits bits

end JsonNumber

end Toolbox
