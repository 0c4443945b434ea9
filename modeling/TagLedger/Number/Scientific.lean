import TagLedger.Number.Binary64

/-!
# Reading decimals

A decimal is read in two roundings: its significand, of as many leading digits as fit in 64 bits,
becomes a double, and that double is multiplied or divided by the double nearest to the power of
ten.  The result may be a neighbour of the nearest double.
-/

namespace TagLedger

namespace Binary64

def greatestPower : Nat := 308

def powerOfTen (power : Nat) : Option Binary64 :=
  ofNat (tenTo power)

/-- Divides by a power of ten, by the greatest one first as long as the power is greater. -/
def divideByPower (number : Binary64) (power : Nat) : Option Binary64 :=
  if _h : power ≤ greatestPower then (powerOfTen power).bind number.div
  else if number.isZero then some number
  else do
    let step ← powerOfTen greatestPower
    divideByPower (← number.div step) (power - greatestPower)
termination_by power
decreasing_by simp only [greatestPower] at *; omega

def multiplyByPower (number : Binary64) (power : Nat) : Option Binary64 :=
  if power ≤ greatestPower then (powerOfTen power).bind number.mul
  else if number.isZero then some number
  else none

def ofScientific (negative : Bool) (significand : Nat) (exponent : Int) : Option Binary64 := do
  let start ← ofNat significand
  let number ←
    if 0 ≤ exponent then start.multiplyByPower exponent.toNat
    else start.divideByPower (-exponent).toNat
  return if negative then number.negate else number

end Binary64

end TagLedger
