import Onboarding.Text.CaseTable

/-! Full Unicode lower-casing of a text. Each character has its own form, but for the capital
sigma, whose form depends on whether it ends a word. -/
namespace Onboarding.Text

/-- The simple lower-case form of one character. -/
def lowerSimple (c : Char) : Char :=
  match lowerShifts.find? (·.contains c.toNat) with
  | some s => Char.ofNat (c.toNat + s.shift).toNat
  | none => c

/-- The one character whose form is two: a dotted capital I keeps its dot. -/
def lowerChar (c : Char) : List Char :=
  if c = 'İ' then ['i', '\u0307'] else [lowerSimple c]

/-- Whether a letter with case comes next, after the characters that are looked through. -/
def letterNext (cs : List Char) : Bool :=
  match cs.dropWhile (within ignorableSpans) with
  | [] => false
  | c :: _ => within casedSpans c

/-- A capital sigma ends a word when a letter comes before it and none after. -/
def lowerFrom (before : List Char) : List Char → List Char
  | [] => []
  | c :: rest =>
    (if c = 'Σ' then [if letterNext before && !letterNext rest then 'ς' else 'σ'] else lowerChar c)
      ++ lowerFrom (c :: before) rest

def lower (s : String) : String := String.ofList (lowerFrom [] s.toList)

end Onboarding.Text
