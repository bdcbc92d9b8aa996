import Onboarding.Text.Lower

/-! Hardware addresses. Twelve hexadecimal digits, written bare or with one of the customary
separators, have one canonical form: lower-case pairs joined by colons. -/
namespace Onboarding.Device

def isHexDigit (c : Char) : Bool :=
  ('0' ≤ c && c ≤ '9') || ('a' ≤ c && c ≤ 'f') || ('A' ≤ c && c ≤ 'F')

/-- The text without a separator. -/
def without (sep : Char) (cs : List Char) : List Char := cs.filter (· != sep)

/-- What is left of a text of a known length without its separators. -/
def bare? (s : String) : Option (List Char) :=
  let cs := s.toList
  if s.utf8ByteSize = 17 ∧ cs.count '-' = 5 then some (without '-' cs)
  else if s.utf8ByteSize = 14 ∧ cs.count '.' = 2 then some (without '.' cs)
  else if s.utf8ByteSize = 12 then some cs
  else none

def joinPairs : List Char → List Char
  | [a, b] => [a, b]
  | a :: b :: rest => a :: b :: ':' :: joinPairs rest
  | cs => cs

/-- The canonical form of an address. A text with five colons is taken to be one; any other text
that is no address stays as it is. -/
def canonicalAddress (s : String) : String :=
  if s.utf8ByteSize = 17 ∧ s.toList.count ':' = 5 then Text.lower s
  else
    match bare? s with
    | some ds =>
      if ds.length = 12 ∧ ds.all isHexDigit then
        String.ofList (joinPairs (ds.map Char.toLower))
      else s
    | none => s

end Onboarding.Device
