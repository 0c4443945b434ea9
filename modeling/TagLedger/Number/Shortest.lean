import TagLedger.Number.Binary64

/-!
# Shortest decimals

The fewest decimal digits that read back as a given double, and of those the nearest to it, a tie
going to the even last digit.  A decimal reads back when it lies between the halfway points to the
neighbouring doubles; the halfway points themselves count when the significand is even.
-/

namespace TagLedger

structure Decimal where
  digits : Nat
  exponent : Int
  deriving DecidableEq, Repr

structure Rounding where
  value : Nat
  low : Nat
  high : Nat
  denominator : Nat
  closed : Bool

def Binary64.rounding (number : Binary64) : Rounding :=
  let quarter := number.exponent - 2
  let scale := twoTo quarter.toNat
  let lowest := number.significand = twoTo 52 ∧ number.exponent ≠ Binary64.leastExponent
  let below := if lowest then 1 else 2
  { value := 4 * number.significand * scale
    low := (4 * number.significand - below) * scale
    high := (4 * number.significand + 2) * scale
    denominator := twoTo (-quarter).toNat
    closed := number.significand % 2 == 0 }

def Decimal.against (decimal : Decimal) (numerator denominator : Nat) : Nat × Nat :=
  (decimal.digits * tenTo decimal.exponent.toNat * denominator,
    numerator * tenTo (-decimal.exponent).toNat)

def Rounding.contains (rounding : Rounding) (decimal : Decimal) : Bool :=
  let low := decimal.against rounding.low rounding.denominator
  let high := decimal.against rounding.high rounding.denominator
  if rounding.closed then low.2 ≤ low.1 && high.1 ≤ high.2 else low.2 < low.1 && high.1 < high.2

/-- Distance to the value, in a unit common to all decimals of one exponent. -/
def Rounding.distance (rounding : Rounding) (decimal : Decimal) : Nat :=
  let sides := decimal.against rounding.value rounding.denominator
  (sides.1 - sides.2) + (sides.2 - sides.1)

def decimalLength (value : Nat) : Nat :=
  (Nat.toDigits 10 value).length

def Rounding.leadingPlace (rounding : Rounding) : Int :=
  let guess : Int := (decimalLength rounding.value : Int) - decimalLength rounding.denominator
  let sides := (Decimal.mk 1 guess).against rounding.value rounding.denominator
  if sides.1 ≤ sides.2 then guess else guess - 1

def Rounding.neighbours (rounding : Rounding) (place : Int) : Decimal × Decimal :=
  let digits := rounding.value * tenTo (-place).toNat / (rounding.denominator * tenTo place.toNat)
  (⟨digits, place⟩, ⟨digits + 1, place⟩)

def Rounding.nearer (rounding : Rounding) (below above : Decimal) : Decimal :=
  let toBelow := rounding.distance below
  let toAbove := rounding.distance above
  if toAbove < toBelow ∨ (toAbove = toBelow ∧ above.digits % 2 = 0) then above else below

def Rounding.nearestWithin (rounding : Rounding) (place : Int) : Option Decimal :=
  let (below, above) := rounding.neighbours place
  match rounding.contains below, rounding.contains above with
  | true, true => some (rounding.nearer below above)
  | true, false => some below
  | false, true => some above
  | false, false => none

/-- Tries one digit, then two, and so on; seventeen always suffice.  The first try is at the place
before the leading one, for a value just below a power of ten. -/
def Rounding.shortest (rounding : Rounding) : Decimal :=
  let first := rounding.leadingPlace + 1
  ((List.range 18).findSome? fun (count : Nat) =>
    rounding.nearestWithin (first - count)).getD (rounding.neighbours (first - 17)).1

def Binary64.shortest (number : Binary64) : Decimal :=
  if number.isZero then ⟨0, 0⟩ else number.rounding.shortest

end TagLedger
