import Onboarding.Number.Binary64

/-! The shortest decimal text of a binary64 number: of the decimals that round to the number,
one with the fewest digits, and of those the nearest. -/
namespace Onboarding.Binary64

/-- Count of decimal digits before the leading one: `10 ^ e ≤ num / den < 10 ^ (e + 1)`. -/
def decimalExponent (num den : Nat) : Int :=
  if den ≤ num then (Nat.toDigits 10 (num / den)).length - 1
  else
    let j := (Nat.toDigits 10 (den / num)).length - 1
    if den ≤ num * Nat.pow 10 j then -(j : Int) else -(j : Int) - 1

/-- The reals that round to a number, as `low / den` and `high / den` around `mid / den`. -/
structure Interval where
  low : Nat
  mid : Nat
  high : Nat
  den : Nat
  closed : Bool

def interval (x : Binary64) : Interval :=
  let gap := Nat.pow 2 x.shift
  let below := if x.fraction.val = 0 ∧ 1 < x.exponent.val then gap else 2 * gap
  { low := 4 * x.units - below, mid := 4 * x.units, high := 4 * x.units + 2 * gap
    den := 4 * oneUnits, closed := x.significand % 2 == 0 }

/-- Whether `c * 10 ^ k` lies in the interval. -/
def Interval.holds (i : Interval) (c : Nat) (k : Int) : Bool :=
  let point := c * Nat.pow 10 k.toNat * i.den
  let low := i.low * Nat.pow 10 (-k).toNat
  let high := i.high * Nat.pow 10 (-k).toNat
  if i.closed then low ≤ point && point ≤ high else low < point && point < high

/-- The decimal on the grid of `10 ^ k` that is nearest to the middle, if one of the two
neighbours of the middle lies in the interval. -/
def Interval.onGrid? (i : Interval) (k : Int) : Option Nat :=
  let num := i.mid * Nat.pow 10 (-k).toNat
  let den := i.den * Nat.pow 10 k.toNat
  let below := num / den
  match i.holds below k, i.holds (below + 1) k with
  | true, true =>
    some (if 2 * (num % den) < den ∨ (2 * (num % den) = den ∧ below % 2 = 0) then below
      else below + 1)
  | true, false => some below
  | false, true => some (below + 1)
  | false, false => none

def Interval.search (i : Interval) (lead : Int) : Nat → Nat → Nat × Int
  | 0, n => (i.mid * Nat.pow 10 (n - 1 - lead).toNat / i.den, lead + 1 - n)
  | fuel + 1, n =>
    match i.onGrid? (lead + 1 - n) with
    | some c => (c, lead + 1 - n)
    | none => i.search lead fuel (n + 1)

/-- Drops trailing zeros of the digits. -/
def stripZeros : Nat → Nat → Int → Nat × Int
  | 0, c, k => (c, k)
  | fuel + 1, c, k => if c ≠ 0 ∧ c % 10 = 0 then stripZeros fuel (c / 10) (k + 1) else (c, k)

/-- Digits and exponent of the shortest decimal of a positive number. Seventeen digits always
suffice. -/
def shortest (x : Binary64) : Nat × Int :=
  let i := x.interval
  let (c, k) := i.search (decimalExponent i.mid i.den) 17 1
  stripZeros 17 c k

/-- An exponent with its sign, which is never left out. -/
def exponentText (e : Int) : List Char :=
  'e' :: (if e < 0 then '-' else '+') :: Nat.toDigits 10 e.natAbs

/-- The text of a decimal: positional below `10 ^ 16` and down to `10 ^ (-5)`, always with a
point; otherwise with an exponent. -/
def layout (digits : List Char) (k : Int) : List Char :=
  let n : Int := digits.length
  let lead := n + k
  if 0 ≤ k ∧ lead ≤ 16 then digits ++ List.replicate k.toNat '0' ++ ['.', '0']
  else if 0 < lead ∧ lead ≤ 16 then digits.take lead.toNat ++ '.' :: digits.drop lead.toNat
  else if -5 < lead ∧ lead ≤ 0 then ['0', '.'] ++ List.replicate (-lead).toNat '0' ++ digits
  else
    digits.take 1 ++ (if digits.length = 1 then [] else '.' :: digits.drop 1) ++
      exponentText (lead - 1)

def text (x : Binary64) : String :=
  let (c, k) := if x.isZero then (0, 0) else x.shortest
  String.ofList ((if x.negative then ['-'] else []) ++ layout (Nat.toDigits 10 c) k)

end Onboarding.Binary64
