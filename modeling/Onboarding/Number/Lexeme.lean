import Onboarding.Number.Binary64

/-! The value of a written number. An integer that fits in 64 bits is kept as one; any other
number is read as a 64-bit significand and a power of ten, and rounded once for each of the two
and once for their product or quotient. -/
namespace Onboarding

inductive Number where
  | integer (n : Int)
  | float (x : Binary64)
  deriving DecidableEq

/-- An integer never equals a float. -/
def Number.same : Number → Number → Bool
  | integer m, integer n => m == n
  | float x, float y => x.same y
  | _, _ => false

theorem Number.same_refl : ∀ n : Number, n.same n = true
  | integer n => by simp [same]
  | float x => Binary64.same_refl x

theorem Number.same_comm (m n : Number) : m.same n = n.same m := by
  cases m <;> cases n <;> simp [same, Binary64.same_comm, BEq.comm]

theorem Number.same_trans {l m n : Number} (h : l.same m = true) (k : m.same n = true) :
    l.same n = true := by
  cases l <;> cases m <;> cases n <;> simp_all [same]
  exact Binary64.same_trans h k

/-- The parts of a written number. -/
structure Lexeme where
  negative : Bool
  whole : List Nat
  fraction : Option (List Nat)
  /-- The sign (`true` for a minus) and the digits of a power of ten. -/
  exponent : Option (Bool × List Nat)

namespace Lexeme

def wordMax : Nat := 18446744073709551615

/-- The largest amount below zero that an integer of 64 bits can have. -/
def negativeMax : Nat := 9223372036854775808

def exponentMax : Nat := 2147483647

def decimal (digits : List Nat) : Nat := digits.foldl (10 * · + ·) 0

/-- Takes digits while the significand fits in a word. The second part counts the digits taken,
the third the digits left. -/
def takeDigits (significand : Nat) : List Nat → Nat × Nat × Nat
  | [] => (significand, 0, 0)
  | d :: ds =>
    if wordMax < 10 * significand + d then (significand, 0, (d :: ds).length)
    else
      let (s, taken, left) := takeDigits (10 * significand + d) ds
      (s, taken + 1, left)

/-- `10 ^ n` as a binary64 number. -/
def power? (n : Nat) : Option Binary64 := Binary64.ofNat? false (Nat.pow 10 n)

/-- Divides by `10 ^ n`, at most `10 ^ 308` at a time. -/
def scaleDown (x : Binary64) (n : Nat) : Option Binary64 :=
  if n ≤ 308 then (power? n).bind x.div?
  else if x.isZero then some x
  else (power? 308).bind x.div? |>.bind fun y => scaleDown y (n - 308)
termination_by n

/-- `significand * 10 ^ exponent`; nothing if it is past the largest number. -/
def float? (negative : Bool) (significand : Nat) (exponent : Int) : Option Binary64 := do
  let x ← Binary64.ofNat? negative significand
  if exponent < 0 then scaleDown x (-exponent).toNat
  else if exponent ≤ 308 then (power? exponent.toNat).bind x.mul?
  else if x.isZero then some x
  else none

/-- The value of a written number; nothing if it is out of range. -/
def number? (l : Lexeme) : Option Number :=
  let (whole, _, dropped) := takeDigits 0 l.whole
  match l.fraction, l.exponent with
  | none, none =>
    if dropped = 0 then
      if l.negative then
        if 1 ≤ whole ∧ whole ≤ negativeMax then some (.integer (-whole))
        else (Binary64.ofNat? true whole).map .float
      else some (.integer whole)
    else (float? l.negative whole dropped).map .float
  | fraction, exponent =>
    let (significand, taken, _) := takeDigits whole (fraction.getD [])
    let start : Int := (dropped : Int) - taken
    match exponent with
    | none => (float? l.negative significand start).map .float
    | some (minus, digits) =>
      let e := decimal digits
      if exponentMax < e then
        if significand ≠ 0 ∧ !minus then none else some (.float (Binary64.zero l.negative))
      else
        (float? l.negative significand (if minus then start - e else start + e)).map .float

end Lexeme

end Onboarding
