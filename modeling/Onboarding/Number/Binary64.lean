/-! Finite binary64 numbers in exact integer arithmetic. A magnitude is counted in units of the
least positive number, and a ratio is rounded to the nearest number, ties to the even one. -/
namespace Onboarding

/-- The weight of the leading binary digit, which is understood and not part of the fraction. -/
abbrev Binary64.leadingBit : Nat := 4503599627370496

structure Binary64 where
  negative : Bool
  exponent : Fin 2047
  fraction : Fin Binary64.leadingBit
  deriving DecidableEq

namespace Binary64

/-- Units per one: the least positive number is `2 ^ (-1074)`. -/
def oneUnits : Nat := Nat.pow 2 1074

def significand (x : Binary64) : Nat :=
  if x.exponent.val = 0 then x.fraction else leadingBit + x.fraction

/-- Distance to the neighbouring numbers above, as a power of two of units. -/
def shift (x : Binary64) : Nat := x.exponent - 1

def units (x : Binary64) : Nat := x.significand * Nat.pow 2 x.shift

def isZero (x : Binary64) : Bool := x.units == 0

/-- Equality of the numbers: the two zeros are one number. -/
def same (x y : Binary64) : Bool := x == y || (x.isZero && y.isZero)

theorem same_refl (x : Binary64) : x.same x = true := by simp [same]

theorem same_comm (x y : Binary64) : x.same y = y.same x := by
  rw [same, same, Bool.and_comm, BEq.comm]

theorem same_trans {x y z : Binary64} (h : x.same y = true) (k : y.same z = true) :
    x.same z = true := by
  simp only [same, Bool.or_eq_true, beq_iff_eq, Bool.and_eq_true] at *
  grind

/-- Numbers of one sign are consecutive in this code; past the last one there is none. -/
def ofCode? (negative : Bool) (code : Nat) : Option Binary64 :=
  if h : code / leadingBit < 2047 then
    some ⟨negative, ⟨code / leadingBit, h⟩, ⟨code % leadingBit, Nat.mod_lt _ (by decide)⟩⟩
  else none

/-- The quotient to the nearest integer, a half to the even one. -/
def roundDiv (num den : Nat) : Nat :=
  let q := num / den
  let r := num % den
  if 2 * r < den ∨ (2 * r = den ∧ q % 2 = 0) then q else q + 1

/-- The number nearest to `num / den`, or nothing if that is past the largest one. -/
def ofRatio? (negative : Bool) (num den : Nat) : Option Binary64 :=
  let scaled := num * oneUnits
  let s := (scaled / den).log2 - 52
  ofCode? negative (s * leadingBit + roundDiv scaled (den * Nat.pow 2 s))

def ofNat? (negative : Bool) (n : Nat) : Option Binary64 := ofRatio? negative n 1

/-- The product rounded once. -/
def mul? (x y : Binary64) : Option Binary64 :=
  ofRatio? (x.negative != y.negative) (x.units * y.units) (oneUnits * oneUnits)

/-- The quotient rounded once; nothing for a divisor of zero. -/
def div? (x y : Binary64) : Option Binary64 :=
  if y.isZero then none else ofRatio? (x.negative != y.negative) x.units y.units

def zero (negative : Bool) : Binary64 := ⟨negative, 0, ⟨0, by decide⟩⟩

end Binary64

end Onboarding
