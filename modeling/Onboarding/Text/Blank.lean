import Onboarding.Text.Span

/-! The characters that count as blank space in a text. -/
namespace Onboarding.Text

/-- Unicode's white space. -/
def blankSpans : List (Nat × Nat) := [
  (0x9, 0xD), (0x20, 0x20), (0x85, 0x85), (0xA0, 0xA0), (0x1680, 0x1680), (0x2000, 0x200A),
  (0x2028, 0x2029), (0x202F, 0x202F), (0x205F, 0x205F), (0x3000, 0x3000)]

def isBlank (c : Char) : Bool := within blankSpans c

def trimLeft (cs : List Char) : List Char := cs.dropWhile isBlank

end Onboarding.Text
