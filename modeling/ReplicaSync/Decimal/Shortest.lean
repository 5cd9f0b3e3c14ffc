/-!
# Decimals of measured values

A measured value is kept as a whole number below 2^53 times a power of two. Every operation gives
the nearest such value, ties going to the even one. A decimal is read in two operations: its leading
digits are taken to a value, and then a power of ten is multiplied or divided in. A value is written
with the fewest digits to which no other value is nearer; of two decimals with as few digits the
nearer is written, and the greater if both are as near.
-/

namespace ReplicaSync

/-- The decimal digits · 10^exponent. -/
structure Decimal where
  digits : Nat
  exponent : Int
  deriving DecidableEq, Repr

/-- The value ± mantissa · 2^exponent. -/
structure Measure where
  isNegative : Bool
  mantissa : Nat
  exponent : Int
  deriving DecidableEq, Repr

namespace Measure

/-! ### From decimals -/

/-- The quotient of two naturals, rounded to the nearest whole number and to the even one of two. -/
def roundedQuotient (num den : Nat) : Nat :=
  let quotient := num / den
  let rest := 2 * (num % den)
  if rest < den || rest = den && quotient % 2 = 0 then quotient else quotient + 1

/-- The number num · 2^(-exponent) / den, rounded. -/
def scaledQuotient (num den : Nat) (exponent : Int) : Nat :=
  roundedQuotient (num * Nat.pow 2 (-exponent).toNat) (den * Nat.pow 2 exponent.toNat)

/-- The least exponent of a value. -/
def leastExponent : Int := -1074

/-- The value nearest to num / den. Its mantissa fills 53 bits unless the exponent is the least. -/
def ofQuotient (num den : Nat) : Nat × Int :=
  let estimate : Int := (num.log2 : Int) - den.log2 - 53
  let exponent := max estimate leastExponent
  if scaledQuotient num den exponent < Nat.pow 2 53 then (scaledQuotient num den exponent, exponent)
  else (scaledQuotient num den (exponent + 1), exponent + 1)

/-- The value nearest to the number num · 2^exponent / den. -/
def ofScaled (isNegative : Bool) (num den : Nat) (exponent : Int) : Measure :=
  let (mantissa, exponent) :=
    ofQuotient (num * Nat.pow 2 exponent.toNat) (den * Nat.pow 2 (-exponent).toNat)
  ⟨isNegative, mantissa, exponent⟩

/-- The value nearest to a power of ten. -/
def powerOfTen (power : Nat) : Measure := ofScaled false (Nat.pow 10 power) 1 0

def timesTen (x : Measure) (power : Nat) : Measure :=
  let ten := powerOfTen power
  ofScaled x.isNegative (x.mantissa * ten.mantissa) 1 (x.exponent + ten.exponent)

def overTen (x : Measure) (power : Nat) : Measure :=
  let ten := powerOfTen power
  ofScaled x.isNegative x.mantissa ten.mantissa (x.exponent - ten.exponent)

/-- The leading digits, as many as fit in 64 bits. -/
def leading (d : Decimal) : Decimal :=
  if Nat.pow 2 64 ≤ d.digits then leading ⟨d.digits / 10, d.exponent + 1⟩ else d
termination_by d.digits
decreasing_by
  have hpow : 0 < Nat.pow 2 64 := by decide
  show d.digits / 10 < d.digits
  omega

/-- The greatest power of ten that is below every infinite value. -/
def greatestPower : Nat := 308

/-- Multiplies a power of ten in, or divides by the opposite one, by the greatest one first. -/
def scale (x : Measure) (exponent : Int) : Measure :=
  if x.mantissa = 0 then x
  else if 0 ≤ exponent then x.timesTen exponent.toNat
  else if -(greatestPower : Int) ≤ exponent then x.overTen (-exponent).toNat
  else scale (x.overTen greatestPower) (exponent + greatestPower)
termination_by (-exponent).toNat
decreasing_by simp only [greatestPower] at *; omega

/-- The value that a decimal stands for, with a minus or without. -/
def ofDecimal (isNegative : Bool) (d : Decimal) : Measure :=
  let d := leading d
  (ofScaled isNegative d.digits 1 0).scale d.exponent

/-- The value is not infinite. -/
def isFinite (x : Measure) : Bool := x.mantissa * Nat.pow 2 x.exponent.toNat < Nat.pow 2 1024

/-- The decimal is taken to a value that is not infinite. A power of ten beyond the greatest one is
refused, whatever it is multiplied with, unless that is zero. -/
def isInRange (d : Decimal) : Bool :=
  (leading d).digits = 0 ||
    ((leading d).exponent ≤ greatestPower && (ofDecimal false d).isFinite)

/-! ### To decimals -/

/-- Compares a decimal with n · 2^q. -/
def compareWith (d : Decimal) (n : Nat) (q : Int) : Ordering :=
  compare (d.digits * Nat.pow 10 d.exponent.toNat * Nat.pow 2 (-q).toNat)
    (n * Nat.pow 2 q.toNat * Nat.pow 10 (-d.exponent).toNat)

/-- The gap below the value is half the gap above it. -/
def isNarrowBelow (x : Measure) : Bool := x.mantissa = Nat.pow 2 52 && leastExponent < x.exponent

/-- The decimal is taken to this value. -/
def readsBack (x : Measure) (d : Decimal) : Bool :=
  let low := if x.isNarrowBelow then 4 * x.mantissa - 1 else 4 * x.mantissa - 2
  let toLow := compareWith d low (x.exponent - 2)
  let toHigh := compareWith d (4 * x.mantissa + 2) (x.exponent - 2)
  if x.mantissa % 2 = 0 then toLow ≠ .lt && toHigh ≠ .gt else toLow = .gt && toHigh = .lt

/-- The greatest decimal with this exponent that is not above the value. -/
def floorAt (x : Measure) (exponent : Int) : Decimal :=
  ⟨x.mantissa * Nat.pow 2 x.exponent.toNat * Nat.pow 10 (-exponent).toNat /
    (Nat.pow 2 (-x.exponent).toNat * Nat.pow 10 exponent.toNat), exponent⟩

/-- The decimal with this exponent that is taken to the value, if there is one. -/
def decimalAt (x : Measure) (exponent : Int) : Option Decimal :=
  let below := x.floorAt exponent
  let above : Decimal := ⟨below.digits + 1, exponent⟩
  match x.readsBack below, x.readsBack above with
  | true, false => some below
  | false, true => some above
  | true, true =>
    let middle : Decimal := ⟨(2 * below.digits + 1) * 5, exponent - 1⟩
    if compareWith middle x.mantissa x.exponent = .gt then some below else some above
  | false, false => none

/-- The first exponent, counted down, at which a decimal is taken to the value. -/
def searchFrom (x : Measure) : Nat → Int → Decimal
  | 0, exponent => x.floorAt exponent
  | more + 1, exponent =>
    match x.decimalAt exponent with
    | some d => d
    | none => searchFrom x more (exponent - 1)

/-- Takes zeros at the end of the digits into the exponent, at most so many. -/
def strip : Nat → Decimal → Decimal
  | 0, d => d
  | more + 1, d =>
    if d.digits % 10 = 0 && d.digits ≠ 0 then strip more ⟨d.digits / 10, d.exponent + 1⟩ else d

/-- A power of ten that is not below the value, as an exponent. -/
def ceiling (x : Measure) : Int := (((x.mantissa.log2 : Int) + 1 + x.exponent) * 30103 / 100000) + 1

/-- The shortest decimal of a value that is not zero. -/
def shortest (x : Measure) : Decimal :=
  let d := x.searchFrom 20 x.ceiling
  strip (Nat.toDigits 10 d.digits).length d

/-! ### Text -/

/-- The greatest number of digits in front of a point. -/
def greatestPlace : Nat := 16

/-- The decimal with all the digits that are written: a whole value has a zero behind its point. -/
def written (x : Measure) : Decimal :=
  if x.mantissa = 0 then ⟨0, -1⟩
  else
    let d := x.shortest
    let isPositional := (Nat.toDigits 10 d.digits).length + d.exponent ≤ greatestPlace
    if 0 ≤ d.exponent && isPositional then ⟨d.digits * Nat.pow 10 (d.exponent.toNat + 1), -1⟩
    else d

/-- The digits with a point after the first `whole` of them, and at least one digit after it. -/
def withPoint (digits : List Char) (whole : Nat) : List Char :=
  let padded := digits ++ List.replicate (whole - digits.length) '0'
  let fraction := padded.drop whole
  padded.take whole ++ '.' :: (if fraction = [] then ['0'] else fraction)

/-- Positional notation for a number whose point stands after `place` of its digits. -/
def positional (digits : List Char) (place : Int) : List Char :=
  if 0 < place then withPoint digits place.toNat
  else withPoint ('0' :: List.replicate (-place).toNat '0' ++ digits) 1

/-- One digit, the others after a point, and the exponent of ten. -/
def exponential (digits : List Char) (place : Int) : List Char :=
  let rest := digits.drop 1
  digits.take 1 ++ (if rest = [] then [] else '.' :: rest) ++ 'e' :: (toString (place - 1)).toList

/-- The text of a value: positional from 10^-4 up to 10^16, with an exponent otherwise. -/
def text (x : Measure) : String :=
  let sign := if x.isNegative then ['-'] else []
  if x.mantissa = 0 then String.ofList (sign ++ "0.0".toList)
  else
    let d := x.shortest
    let digits := Nat.toDigits 10 d.digits
    let place := (digits.length : Int) + d.exponent
    let shown := if -4 < place && place ≤ greatestPlace then positional digits place
      else exponential digits place
    String.ofList (sign ++ shown)

end Measure

end ReplicaSync
