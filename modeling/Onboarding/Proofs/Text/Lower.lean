import Mathlib.Data.List.Defs
import Onboarding.Text.Lower

/-! Lower-casing settles: what it makes of a text stays as it is when it is lower-cased again, and
colons are neither made nor lost. Both are read off the table, no span of which leads to a
character that has a lower-case form itself. -/
namespace Onboarding.Text

namespace ShiftSpan

theorem contains_iff {s : ShiftSpan} {n : Nat} :
    s.contains n = true ↔ (s.first ≤ n ∧ n ≤ s.last) ∧ (n - s.first) % s.step = 0 := by
  simp [contains]

/-- The span of one character. -/
def single (c : Char) : ShiftSpan := ⟨c.toNat, c.toNat, 1, 0⟩

/-- Where a span leads. A single character is given the step two, since it may lie between those of
another span. -/
def image (s : ShiftSpan) : ShiftSpan where
  first := (s.first + s.shift).toNat
  last := (s.last + s.shift).toNat
  step := if s.first = s.last then 2 else s.step
  shift := 0

/-- The span leads to code points that are characters. -/
def lands (s : ShiftSpan) : Bool :=
  decide (0 ≤ s.first + s.shift) && (Nat.blt s.image.last 0xD800 ||
    Nat.blt 0xDFFF s.image.first && Nat.blt s.image.last 0x110000)

/-- The spans share no character: one lies beyond the ends of the other, or their characters
alternate. -/
def clears (s t : ShiftSpan) : Bool :=
  Nat.blt s.last t.first || Nat.blt t.last s.first ||
    (s.step == 2 && t.step == 2 && (s.first + t.first) % 2 == 1)

variable {s t : ShiftSpan} {n : Nat}

theorem outside_of_clears (clears : s.clears t = true) (inside : s.contains n = true) :
    t.contains n = false := by
  obtain ⟨⟨low, high⟩, aligned⟩ := contains_iff.mp inside
  rw [Bool.eq_false_iff, Ne, contains_iff]
  rintro ⟨⟨low', high'⟩, aligned'⟩
  simp only [ShiftSpan.clears, Bool.or_eq_true, Nat.blt_eq, Bool.and_eq_true, beq_iff_eq] at clears
  rcases clears with (before | after) | ⟨⟨step, step'⟩, odd⟩
  · omega
  · omega
  · rw [step] at aligned
    rw [step'] at aligned'
    omega

theorem toNat_image (lands : s.lands = true) (inside : s.contains n = true) :
    (Char.ofNat (n + s.shift).toNat).toNat = (n + s.shift).toNat := by
  obtain ⟨⟨low, high⟩, _⟩ := contains_iff.mp inside
  simp only [ShiftSpan.lands, image, Bool.or_eq_true, Nat.blt_eq, Bool.and_eq_true,
    decide_eq_true_eq] at lands
  have valid : (n + s.shift).toNat.isValidChar := by
    simp only [Nat.isValidChar]
    omega
  rw [Char.ofNat, dif_pos valid]
  rfl

theorem contains_image (lands : s.lands = true) (inside : s.contains n = true) :
    s.image.contains (n + s.shift).toNat = true := by
  obtain ⟨⟨low, high⟩, aligned⟩ := contains_iff.mp inside
  simp only [ShiftSpan.lands, Bool.and_eq_true, decide_eq_true_eq] at lands
  have start := lands.1
  have distance : (n + s.shift).toNat - (s.first + s.shift).toNat = n - s.first := by omega
  simp only [contains_iff, image]
  constructor
  · omega
  · rw [distance]
    split
    · omega
    · exact aligned

end ShiftSpan

/-- The characters that lower-casing treats on their own, and those that have a form in the table. -/
def otherForms : List ShiftSpan := .single ':' :: .single 'İ' :: lowerShifts

theorem lowerShifts_clear :
    (lowerShifts.all fun s => s.lands && otherForms.all s.image.clears) = true := by
  decide +kernel

/-- What the table makes of a character has no form of its own. -/
theorem outside_of_mem {s t : ShiftSpan} {c : Char} (member : s ∈ lowerShifts)
    (inside : s.contains c.toNat = true) (other : t ∈ otherForms) :
    t.contains (Char.ofNat (c.toNat + s.shift).toNat).toNat = false := by
  have checked := List.all_eq_true.mp lowerShifts_clear s member
  obtain ⟨lands, clears⟩ := Bool.and_eq_true_iff.mp checked
  rw [ShiftSpan.toNat_image lands inside]
  exact ShiftSpan.outside_of_clears (List.all_eq_true.mp clears t other)
    (ShiftSpan.contains_image lands inside)

/-- Lower-casing leaves the character as it is. -/
def Settled (c : Char) : Prop := c ≠ 'Σ' ∧ lowerChar c = [c]

instance (c : Char) : Decidable (Settled c) := inferInstanceAs (Decidable (_ ∧ _))

theorem settled_of_outside {c : Char} (plain : c ≠ 'İ')
    (outside : ∀ t ∈ lowerShifts, t.contains c.toNat = false) : Settled c := by
  constructor
  · rintro rfl
    have inside : ∃ t ∈ lowerShifts, t.contains 'Σ'.toNat = true := by decide
    obtain ⟨t, member, inside⟩ := inside
    rw [outside t member] at inside
    cases inside
  · have none : lowerShifts.find? (·.contains c.toNat) = none := by
      rw [List.find?_eq_none]
      intro t member
      simp [outside t member]
    rw [lowerChar, if_neg plain, lowerSimple, none]

/-- The form of a character other than the dotted capital is settled, and is a colon for the colon
only. -/
theorem lowerSimple_settled {c : Char} (plain : c ≠ 'İ') :
    Settled (lowerSimple c) ∧ (lowerSimple c = ':' → c = ':') := by
  cases found : lowerShifts.find? (·.contains c.toNat) with
  | none =>
    have outside : ∀ t ∈ lowerShifts, t.contains c.toNat = false := by simpa using found
    rw [lowerSimple, found]
    exact ⟨settled_of_outside plain outside, id⟩
  | some s =>
    have inside : s.contains c.toNat = true := by simpa using List.find?_some found
    have outside : ∀ t ∈ otherForms, t.contains (lowerSimple c).toNat = false := by
      intro t member
      rw [lowerSimple, found]
      exact outside_of_mem (List.mem_of_find?_eq_some found) inside member
    have other (d : Char) (member : ShiftSpan.single d ∈ otherForms) : lowerSimple c ≠ d := by
      intro same
      have taken := outside _ member
      rw [same] at taken
      simp [ShiftSpan.single, ShiftSpan.contains] at taken
    constructor
    · refine settled_of_outside (other 'İ' (by simp [otherForms])) fun t member => ?_
      exact outside t (by simp [otherForms, member])
    · intro colon
      exact absurd colon (other ':' (by simp [otherForms]))

/-- The letters that lower-casing makes on its own. -/
def ownLetters : List Char := ['i', '\u0307', 'ς', 'σ']

theorem ownLetters_settled {d : Char} (member : d ∈ ownLetters) : Settled d ∧ d ≠ ':' := by
  have each : (ownLetters.all fun d => decide (Settled d ∧ d ≠ ':')) = true := by decide +kernel
  exact of_decide_eq_true (List.all_eq_true.mp each d member)

theorem lowerChar_settled {c d : Char} (member : d ∈ lowerChar c) :
    Settled d ∧ (d = ':' → c = ':') := by
  unfold lowerChar at member
  split at member
  · have own : d ∈ ownLetters := by
      simp only [List.mem_cons, List.not_mem_nil, or_false] at member
      rcases member with rfl | rfl <;> simp [ownLetters]
    obtain ⟨settled, other⟩ := ownLetters_settled own
    exact ⟨settled, fun colon => absurd colon other⟩
  · rename_i plain
    obtain rfl := List.mem_singleton.mp member
    exact lowerSimple_settled plain

theorem colon_settled : lowerChar ':' = [':'] := by decide +kernel

theorem count_lowerChar (c : Char) : (lowerChar c).count ':' = [c].count ':' := by
  by_cases colon : c = ':'
  · rw [colon, colon_settled]
  · have none : ':' ∉ lowerChar c := fun member => colon ((lowerChar_settled member).2 rfl)
    rw [List.count_eq_zero.mpr none, List.count_singleton, if_neg (by simpa using colon)]

/-- Characters with forms of their own are lower-cased one by one. -/
theorem lowerFrom_map {cs : List Char} {f : Char → Char}
    (plain : ∀ c ∈ cs, c ≠ 'Σ' ∧ lowerChar c = [f c]) (before : List Char) :
    lowerFrom before cs = cs.map f := by
  induction cs generalizing before with
  | nil => rfl
  | cons c cs ih =>
    obtain ⟨other, lower⟩ := plain c (by simp)
    have others := ih (fun c member => plain c (by simp [member])) (c :: before)
    rw [lowerFrom, if_neg other, lower, others]
    rfl

theorem lowerFrom_settled (before cs : List Char) : ∀ d ∈ lowerFrom before cs, Settled d := by
  induction cs generalizing before with
  | nil => simp [lowerFrom]
  | cons c cs ih =>
    intro d member
    rw [lowerFrom, List.mem_append] at member
    rcases member with here | later
    · split at here
      · have own : d ∈ ownLetters := by
          split at here <;> simp_all [ownLetters]
        exact (ownLetters_settled own).1
      · exact (lowerChar_settled here).1
    · exact ih (c :: before) d later

theorem count_lowerFrom (before cs : List Char) :
    (lowerFrom before cs).count ':' = cs.count ':' := by
  induction cs generalizing before with
  | nil => rfl
  | cons c cs ih =>
    rw [lowerFrom, List.count_append, ih, ← List.singleton_append (l := cs), List.count_append]
    congr 1
    split
    · rename_i sigma
      subst sigma
      split <;> rfl
    · exact count_lowerChar c

theorem lower_lower (s : String) : lower (lower s) = lower s := by
  have again := lowerFrom_map (lowerFrom_settled [] s.toList) []
  rw [lower, lower, String.toList_ofList, again, List.map_id']

theorem count_lower (s : String) : (lower s).toList.count ':' = s.toList.count ':' := by
  rw [lower, String.toList_ofList, count_lowerFrom]

end Onboarding.Text
