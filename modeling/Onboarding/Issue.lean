/-! Generated ids: the numbers from zero on, in base 32 with a fixed width. -/
namespace Onboarding.Issue

/-- Digits and capitals without the letters that are easily misread. -/
def alphabet : List Char :=
  ['0', '1', '2', '3', '4', '5', '6', '7', '8', '9', 'A', 'B', 'C', 'D', 'E', 'F', 'G', 'H', 'J',
    'K', 'M', 'N', 'P', 'Q', 'R', 'S', 'T', 'V', 'W', 'X', 'Y', 'Z']

def digit (n : Nat) : Char := alphabet.getD (n % 32) '0'

/-- The last `width` digits of a number. -/
def digits : Nat → Nat → List Char
  | 0, _ => []
  | width + 1, n => digits width (n / 32) ++ [digit n]

def width : Nat := 26

/-- How many numbers fit in the width. -/
def capacity : Nat := Nat.pow 32 width

/-- The part of a number that does not fit in the width. -/
def excess (n : Nat) : List Char :=
  if n < capacity then [] else Nat.toDigits 10 (n / capacity)

/-- The id of a number. -/
def id (n : Nat) : String := String.ofList (excess n ++ digits width n)

end Onboarding.Issue
