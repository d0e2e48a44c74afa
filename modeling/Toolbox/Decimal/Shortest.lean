/-!
# Shortest decimals of binary64 numbers

A positive finite binary64 number is `m · 2^q`.  The reals that round to it form an interval around
it, which contains its ends if and only if `m` is even.  `shortest?` gives the decimal with the
fewest digits in that interval, the nearest of those with that many digits, and of two nearest ones
the even one.  All arithmetic is exact, on numerators over the common denominator `den`.
-/

namespace Toolbox.Decimal

/-- A positive number and the reals that round to it, as numerators over `den`. -/
structure Rounding where
  value : Nat
  low : Nat
  high : Nat
  den : Nat
  closed : Bool
  deriving Repr

/-- The decimal `digits · 10^exponent`. -/
structure Scaled where
  digits : Nat
  exponent : Int
  deriving Repr, DecidableEq

/-- The reals that round to `m · 2^q`; below a power of two the spacing is halved. -/
def Rounding.ofBinary (m : Nat) (q : Int) (narrowBelow : Bool) : Rounding :=
  let unit := if q ≤ 2 then 1 else Nat.pow 2 (q - 2).toNat
  { value := 4 * m * unit
    low := (4 * m - (if narrowBelow then 1 else 2)) * unit
    high := (4 * m + 2) * unit
    den := Nat.pow 2 (2 - q).toNat
    closed := m % 2 == 0 }

/-- The `p` with `10^(p-1) ≤ value / den < 10^p`. -/
def Rounding.magnitude (r : Rounding) : Int :=
  if r.den ≤ r.value then (Nat.toDigits 10 (r.value / r.den)).length
  else 1 - ((Nat.toDigits 10 (r.den / r.value)).length : Int)

/-- Whether `c / unit` lies in the interval, for numerators scaled by `unit`. -/
def Rounding.admits (r : Rounding) (scaleUp scaleDown c : Nat) : Bool :=
  let x := c * scaleUp * r.den
  if r.closed then r.low * scaleDown ≤ x && x ≤ r.high * scaleDown
  else r.low * scaleDown < x && x < r.high * scaleDown

/-- Best point of the grid of multiples of `10^exponent`, if one of the two next to the value lies
in the interval. -/
def Rounding.onGrid? (r : Rounding) (exponent : Int) : Option Scaled :=
  let up := Nat.pow 10 exponent.toNat
  let down := Nat.pow 10 (-exponent).toNat
  let below := r.value * down / (up * r.den)
  let rest := 2 * (r.value * down % (up * r.den))
  let pick := if rest < up * r.den || (rest == up * r.den && below % 2 == 0) then below
    else below + 1
  let other := if pick = below then below + 1 else below
  if r.admits up down pick then some ⟨pick, exponent⟩
  else if r.admits up down other then some ⟨other, exponent⟩
  else none

/-- First hit on the grids of `n`, `n + 1`, … digits. -/
def Rounding.search (r : Rounding) (magnitude : Int) : Nat → Nat → Option Scaled
  | 0, _ => none
  | fuel + 1, n =>
    match r.onGrid? (magnitude - n) with
    | some s => some s
    | none => r.search magnitude fuel (n + 1)

/-- Shortest decimal that rounds to the number; seventeen digits always suffice. -/
def Rounding.shortest? (r : Rounding) : Option Scaled := r.search r.magnitude 17 1

/-- Drops `n` trailing zeros at most, counting them into the exponent. -/
def Scaled.stripZeros (s : Scaled) : Nat → Scaled
  | 0 => s
  | n + 1 =>
    if s.digits ≠ 0 ∧ s.digits % 10 = 0 then Scaled.stripZeros ⟨s.digits / 10, s.exponent + 1⟩ n
    else s

/-- How a decimal is written: positionally while the exponent of its first digit lies in a range,
otherwise with an exponent mark. -/
structure Layout where
  lowest : Int
  highest : Int
  mark : String
  positiveSign : String

/-- Digits of a positive decimal, laid out. -/
def Layout.write (l : Layout) (s : Scaled) : String :=
  let ds := Nat.toDigits 10 s.digits
  let first : Int := s.exponent + ds.length - 1
  if l.lowest ≤ first ∧ first ≤ l.highest then
    if 0 ≤ s.exponent then String.ofList (ds ++ List.replicate s.exponent.toNat '0') ++ ".0"
    else if 0 ≤ first then
      String.ofList (ds.take (first.toNat + 1)) ++ "." ++ String.ofList (ds.drop (first.toNat + 1))
    else "0." ++ String.ofList (List.replicate (-first - 1).toNat '0' ++ ds)
  else
    let fraction := if ds.length ≤ 1 then "" else "." ++ String.ofList (ds.drop 1)
    String.ofList (ds.take 1) ++ fraction ++ l.mark
      ++ (if first < 0 then "" else l.positiveSign) ++ toString first

end Toolbox.Decimal
