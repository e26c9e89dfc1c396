/-!
Double precision numbers as bit patterns, and the decimal literals that denote them. A literal's
digits are gathered into a 64-bit significand; digits past its capacity only shift the exponent. The
significand is rounded to a double and scaled by one rounded power of ten.
-/

set_option autoImplicit false

namespace AudienceScope

/-- A double precision number, given by its bits so that equality is exact: `0.0` is not `-0.0`. -/
structure Binary64 where
  bits : UInt64
deriving DecidableEq

namespace Binary64

def ofFloat (value : Float) : Binary64 := ⟨value.toBits⟩

def signBit : UInt64 := 0x8000000000000000

/-- The weight of the lowest exponent bit, which is the hidden bit of the significand. -/
def hiddenBit : Nat := 0x10000000000000

def infinity : Binary64 := ⟨0x7ff0000000000000⟩

def undefined : Binary64 := ⟨0x7ff8000000000000⟩

def negate (number : Binary64) : Binary64 := ⟨number.bits ^^^ signBit⟩

def isNegative (number : Binary64) : Bool := signBit ≤ number.bits

def exponentField (number : Binary64) : Nat := number.bits.toNat / hiddenBit % 2048

def fraction (number : Binary64) : Nat := number.bits.toNat % hiddenBit

def isFinite (number : Binary64) : Bool := number.exponentField != 2047

def isNaN (number : Binary64) : Bool := !number.isFinite && number.fraction != 0

/-- The integer `m` of the magnitude `m · 2 ^ q`; meaningful for finite numbers. -/
def significand (number : Binary64) : Nat :=
  if number.exponentField = 0 then number.fraction else number.fraction + hiddenBit

/-- The exponent `q` of the magnitude `m · 2 ^ q`. -/
def scale (number : Binary64) : Int :=
  (if number.exponentField = 0 then 1 else number.exponentField : Nat) - 1075

/-- The double nearest to `significand · 10 ^ exponent`; infinite when that is too large. Exponents
far outside the range of doubles are cut off before any power of ten is computed. -/
def nearest (negative : Bool) (significand : Nat) (exponent : Int) : Binary64 :=
  let digits := (Nat.toDigits 10 significand).length
  let magnitude : Float :=
    if significand = 0 ∨ exponent + digits < -400 then 0
    else if 400 < exponent + digits then Float.ofScientific 1 false 400
    else Float.ofScientific significand (decide (exponent < 0)) exponent.natAbs
  .ofFloat (if negative then -magnitude else magnitude)

end Binary64

structure DecimalLiteral where
  negative : Bool
  whole : List Nat
  fraction : Option (List Nat)
  exponent : Option (Bool × List Nat)

namespace DecimalLiteral

def significandLimit : Nat := 0xffffffffffffffff

def exponentLimit : Nat := 0x7fffffff

/-- Appends digits to a number until one would exceed the limit, and counts those left out. -/
def gather (limit : Nat) (gathered : Nat) : List Nat → Nat × Nat
  | [] => (gathered, 0)
  | digit :: rest =>
    if gathered * 10 + digit ≤ limit then gather limit (gathered * 10 + digit) rest
    else (gathered, rest.length + 1)

def tenToThe (power : Nat) : Float := Float.ofScientific 1 false power

/-- Scales by a power of ten in steps of at most `10 ^ 308`; `none` when the result is too large. -/
def scaleByTen : (steps : Nat) → Float → Int → Option Float
  | 0, value, _ => some value
  | steps + 1, value, exponent =>
    if exponent.natAbs ≤ 308 then
      if 0 ≤ exponent then
        let product := value * tenToThe exponent.natAbs
        if product.isInf then none else some product
      else some (value / tenToThe exponent.natAbs)
    else if value == 0 then some value
    else if 0 ≤ exponent then none
    else scaleByTen steps (value / tenToThe 308) (exponent + 308)

def clampExponent (exponent : Int) : Int :=
  max (-0x80000000) (min 0x7fffffff exponent)

def signed (negative : Bool) (magnitude : Float) : Binary64 :=
  .ofFloat (if negative then -magnitude else magnitude)

def toBinary64? (literal : DecimalLiteral) : Option Binary64 :=
  let whole := gather significandLimit 0 literal.whole
  let fraction := literal.fraction.getD []
  let all := gather significandLimit whole.1 fraction
  let start : Int := whole.2 - ((fraction.length - all.2 : Nat) : Int)
  let scaled := fun exponent =>
    (scaleByTen 5 (Float.ofNat all.1) exponent).map (signed literal.negative)
  match literal.exponent with
  | none => scaled start
  | some (down, digits) =>
    let written := gather exponentLimit 0 digits
    if written.2 ≠ 0 then
      if all.1 ≠ 0 ∧ !down then none else some (signed literal.negative 0)
    else if down then scaled (clampExponent (start - written.1))
    else scaled (clampExponent (start + written.1))

end DecimalLiteral

end AudienceScope
