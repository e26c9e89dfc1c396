import AudienceScope.Decimal.Binary64

/-!
Decimal text of doubles: the fewest digits that read back as the number, and of those the nearest to
it. A format says which of two equally near ones is taken and where positional notation ends.
-/

set_option autoImplicit false

namespace AudienceScope.Decimal

/-- Decimal digits with a leading digit that counts units of `10 ^ exponent`. -/
structure Digits where
  digits : List Char
  exponent : Int

/-- A positive fraction beside the ends of the interval of reals that round to it, over one
denominator. -/
structure Interval where
  low : Nat
  value : Nat
  high : Nat
  denominator : Nat
  endsIncluded : Bool

/-- The reals that round to a number. Below a power of two the next double is half as far away. -/
def intervalOf (number : Binary64) : Interval :=
  let m := number.significand
  let quarterScale := number.scale - 2
  let times := Nat.pow 2 quarterScale.toNat
  let low := if number.fraction = 0 ∧ 1 < number.exponentField then 4 * m - 1 else 4 * m - 2
  { low := low * times
    value := 4 * m * times
    high := (4 * m + 2) * times
    denominator := Nat.pow 2 (-quarterScale).toNat
    endsIncluded := m % 2 == 0 }

def leadingExponent (interval : Interval) : Int :=
  if interval.denominator ≤ interval.value then
    ((Nat.toDigits 10 (interval.value / interval.denominator)).length : Int) - 1
  else
    let inverse := (interval.denominator + interval.value - 1) / interval.value
    Int.negOfNat (Nat.toDigits 10 (inverse - 1)).length

def Interval.rescale (interval : Interval) (unit : Int) : Interval :=
  let factor := Nat.pow 10 (-unit).toNat
  { interval with
    low := interval.low * factor
    value := interval.value * factor
    high := interval.high * factor
    denominator := interval.denominator * Nat.pow 10 unit.toNat }

/-- Which of two equally near decimals is taken: the one with the even last digit or the greater. -/
inductive Tie where
  | toEven
  | up
deriving DecidableEq

def Tie.keeps (tie : Tie) (below : Nat) : Bool :=
  match tie with
  | .toEven => below % 2 == 0
  | .up => false

def Interval.neighbour? (tie : Tie) (interval : Interval) : Option Nat :=
  let below := interval.value / interval.denominator
  let above := below + 1
  let belowHits := if interval.endsIncluded then interval.low ≤ below * interval.denominator
    else interval.low < below * interval.denominator
  let aboveHits := if interval.endsIncluded then above * interval.denominator ≤ interval.high
    else above * interval.denominator < interval.high
  let downGap := interval.value - below * interval.denominator
  let upGap := above * interval.denominator - interval.value
  if belowHits ∧ aboveHits then
    if downGap < upGap ∨ (downGap = upGap ∧ tie.keeps below) then some below else some above
  else if belowHits then some below
  else if aboveHits then some above
  else none

def search (tie : Tie) (interval : Interval) (leading : Int) :
    (tries count : Nat) → Option (Nat × Int)
  | 0, _ => none
  | tries + 1, count =>
    let unit := leading - count
    match (interval.rescale unit).neighbour? tie with
    | some digits => some (digits, unit)
    | none => search tie interval leading tries (count + 1)

def shortest (tie : Tie) (number : Binary64) : Digits :=
  if number.significand = 0 then ⟨['0'], 0⟩
  else
    let interval := intervalOf number
    let leading := leadingExponent interval
    match search tie interval leading 18 0 with
    | none => ⟨['0'], 0⟩
    | some (value, unit) =>
      let digits := Nat.toDigits 10 value
      let kept := (digits.reverse.dropWhile (· == '0')).reverse
      ⟨kept, unit + digits.length - 1⟩

structure Format where
  tie : Tie
  lowest : Option Int
  highest : Option Int

def Format.isPositional (format : Format) (exponent : Int) : Bool :=
  format.lowest.all (· ≤ exponent) && format.highest.all (exponent ≤ ·)

def positional (number : Digits) : List Char :=
  let count := number.digits.length
  if number.exponent < 0 then
    '0' :: '.' :: (List.replicate (-number.exponent - 1).toNat '0' ++ number.digits)
  else
    let before := number.exponent.toNat + 1
    if count ≤ before then
      number.digits ++ List.replicate (before - count) '0' ++ ['.', '0']
    else number.digits.take before ++ '.' :: number.digits.drop before

/-- Scientific notation; the exponent always has its sign, and a lone digit has no point. -/
def scientific (number : Digits) : List Char :=
  let mantissa := match number.digits with
    | [] => []
    | [digit] => [digit]
    | digit :: rest => digit :: '.' :: rest
  let sign := if number.exponent < 0 then '-' else '+'
  mantissa ++ 'e' :: sign :: Nat.toDigits 10 number.exponent.natAbs

def text (format : Format) (number : Binary64) : List Char :=
  if number.isNaN then "NaN".toList
  else
    let magnitude :=
      if !number.isFinite then "inf".toList
      else
        let digits := shortest format.tie number
        if format.isPositional digits.exponent then positional digits else scientific digits
    if number.isNegative then '-' :: magnitude else magnitude

end AudienceScope.Decimal
