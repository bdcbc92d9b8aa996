/-! Sets of characters given by closed intervals of code points. -/
namespace Onboarding.Text

/-- Whether one of the intervals holds the character. -/
def within (spans : List (Nat × Nat)) (c : Char) : Bool :=
  spans.any fun (first, last) => first ≤ c.toNat && c.toNat ≤ last

end Onboarding.Text
