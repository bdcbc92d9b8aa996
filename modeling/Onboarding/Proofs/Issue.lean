import Onboarding.Issue
import Onboarding.Proofs.Json.Numeral

/-! Generated ids are never given out twice: the number of an id can be read off it. -/
namespace Onboarding.Issue

theorem digit_inj {m n : Nat} (same : digit m = digit n) : m % 32 = n % 32 := by
  have all : ∀ a < 32, ∀ b < 32, alphabet.getD a '0' = alphabet.getD b '0' → a = b := by decide
  exact all _ (Nat.mod_lt m (by decide)) _ (Nat.mod_lt n (by decide)) same

theorem length_digits (width n : Nat) : (digits width n).length = width := by
  induction width generalizing n with
  | zero => rfl
  | succ width ih => simp [digits, ih]

theorem digits_inj {width m n : Nat} (same : digits width m = digits width n) :
    m % Nat.pow 32 width = n % Nat.pow 32 width := by
  induction width generalizing m n with
  | zero => simp [Nat.mod_one]
  | succ width ih =>
    obtain ⟨front, last⟩ := List.append_inj' same rfl
    have high := ih front
    have low := digit_inj (List.singleton_inj.mp last)
    have split (k : Nat) : k % Nat.pow 32 (width + 1) =
        k % 32 + 32 * (k / 32 % Nat.pow 32 width) := by
      have power : Nat.pow 32 (width + 1) = 32 * Nat.pow 32 width := Nat.mul_comm _ _
      rw [power, Nat.mod_mul]
    rw [split m, split n, high, low]

theorem toDigits_inj {m n : Nat} (same : Nat.toDigits 10 m = Nat.toDigits 10 n) : m = n := by
  rw [← Numeral.values_toDigits m, ← Numeral.values_toDigits n, same]

theorem excess_inj {m n : Nat} (same : excess m = excess n) : m / capacity = n / capacity := by
  have shown (k : Nat) : Nat.toDigits 10 k ≠ [] := (Numeral.isDigits_toDigits k).1
  unfold excess at same
  by_cases small : m < capacity <;> by_cases small' : n < capacity
  · rw [Nat.div_eq_of_lt small, Nat.div_eq_of_lt small']
  · rw [if_pos small, if_neg small'] at same
    exact absurd same.symm (shown _)
  · rw [if_neg small, if_pos small'] at same
    exact absurd same (shown _)
  · rw [if_neg small, if_neg small'] at same
    exact toDigits_inj same

theorem id_inj {m n : Nat} (same : id m = id n) : m = n := by
  have chars : excess m ++ digits width m = excess n ++ digits width n :=
    String.ofList_injective same
  obtain ⟨high, low⟩ := List.append_inj' chars (by rw [length_digits, length_digits])
  have quotients := excess_inj high
  have remainders : m % capacity = n % capacity := digits_inj low
  rw [← Nat.div_add_mod m capacity, ← Nat.div_add_mod n capacity, quotients, remainders]

theorem ne_id {s : String} (short : s.length < width) (n : Nat) : s ≠ id n := by
  rintro rfl
  have wide : width ≤ (id n).length := by simp [id, length_digits]
  exact absurd short (Nat.not_lt.mpr wide)

end Onboarding.Issue
