import TagLedger.Text.Digits

/-!
# Binary floating-point numbers

A finite double is a sign, a significand below `2 ^ 53` and a binary exponent, which is the least
one, -1074, unless the significand fills its 53 bits.  Products and quotients are formed exactly and
rounded once, to the nearest double and to the even one of two equally near.
-/

namespace TagLedger

structure Binary64 where
  negative : Bool
  significand : Nat
  exponent : Int
  deriving DecidableEq, Repr

namespace Binary64

def leastExponent : Int := -1074

def greatestExponent : Int := 971

def zero (negative : Bool) : Binary64 :=
  ⟨negative, 0, leastExponent⟩

def isZero (number : Binary64) : Bool :=
  number.significand == 0

/-- The quotient rounded to the nearest whole number, a half going to the even neighbour. -/
def divideToNearest (numerator denominator : Nat) : Nat :=
  let quotient := numerator / denominator
  let twice := 2 * (numerator % denominator)
  if twice < denominator then quotient
  else if denominator < twice then quotient + 1
  else quotient + quotient % 2

def scaleBy (numerator denominator : Nat) (exponent : Int) : Nat × Nat :=
  (numerator * twoTo (-exponent).toNat, denominator * twoTo exponent.toNat)

/-- The exponent at which the quotient, rounded down, has 53 bits or, below the least normal
number, fewer. -/
def exponentFor (numerator denominator : Nat) : Int :=
  let guess := max leastExponent ((numerator.log2 : Int) - (denominator.log2 : Int) - 53)
  let scaled := scaleBy numerator denominator guess
  if scaled.1 / scaled.2 < twoTo 53 then guess else guess + 1

def ofRatio (negative : Bool) (numerator denominator : Nat) : Option Binary64 :=
  if numerator = 0 then some (zero negative)
  else
    let exponent := exponentFor numerator denominator
    let scaled := scaleBy numerator denominator exponent
    let significand := divideToNearest scaled.1 scaled.2
    let rounded : Binary64 :=
      if significand = twoTo 53 then ⟨negative, twoTo 52, exponent + 1⟩
      else ⟨negative, significand, exponent⟩
    if greatestExponent < rounded.exponent then none else some rounded

def ofNat (value : Nat) : Option Binary64 :=
  ofRatio false value 1

def mul (left right : Binary64) : Option Binary64 :=
  let exponent := left.exponent + right.exponent
  ofRatio (left.negative != right.negative)
    (left.significand * right.significand * twoTo exponent.toNat) (twoTo (-exponent).toNat)

def div (left right : Binary64) : Option Binary64 :=
  let exponent := left.exponent - right.exponent
  ofRatio (left.negative != right.negative)
    (left.significand * twoTo exponent.toNat) (right.significand * twoTo (-exponent).toNat)

def negate (number : Binary64) : Binary64 :=
  { number with negative := !number.negative }

end Binary64

end TagLedger
