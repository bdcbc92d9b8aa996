import Mathlib.Data.Option.Basic
import Onboarding.Json.Tree
import Onboarding.Json.Writer

/-! Written numbers. A numeral is what a number is written in: a sign, digits, and perhaps a
fraction and a power of ten. The reader takes exactly the numeral off the front of a text, and
every number is written as a numeral. -/
namespace Onboarding

/-- The parts of a written number, as characters. The sign of an exponent is `true` for a minus. -/
structure Numeral where
  negative : Bool
  whole : List Char
  fraction : Option (List Char)
  exponent : Option (Bool × List Char)

namespace Numeral

def sign (minus : Bool) : List Char := if minus then ['-'] else []

def fractionChars : Option (List Char) → List Char
  | none => []
  | some ds => '.' :: ds

def exponentChars : Option (Bool × List Char) → List Char
  | none => []
  | some (minus, ds) => 'e' :: (if minus then '-' else '+') :: ds

def chars (n : Numeral) : List Char :=
  sign n.negative ++ (n.whole ++ (fractionChars n.fraction ++ exponentChars n.exponent))

def values (ds : List Char) : List Nat := ds.map (·.toNat - 48)

def lexeme (n : Numeral) : Lexeme where
  negative := n.negative
  whole := values n.whole
  fraction := n.fraction.map values
  exponent := n.exponent.map fun (minus, ds) => (minus, values ds)

def IsDigits (ds : List Char) : Prop := ds ≠ [] ∧ ∀ c ∈ ds, Tree.isDigit c = true

/-- The grammar's demands: no part is empty, and no needless zero stands in front. -/
structure WellFormed (n : Numeral) : Prop where
  whole : IsDigits n.whole
  lead : n.whole.head? ≠ some '0' ∨ n.whole.length = 1
  fraction : ∀ ds ∈ n.fraction, IsDigits ds
  exponent : ∀ e ∈ n.exponent, IsDigits e.2

theorem isDigits_zero : IsDigits ['0'] := ⟨by simp, List.forall_mem_singleton.mpr rfl⟩

/-- A text that does not go on with a number. -/
def Ends (rest : List Char) : Prop :=
  ∀ c ∈ rest.head?, Tree.isDigit c = false ∧ c ≠ '.' ∧ c ≠ 'e' ∧ c ≠ 'E'

/-! Reading the parts one after the other. -/

theorem digits_append {ds rest : List Char} (digits : ∀ c ∈ ds, Tree.isDigit c = true)
    (stops : ∀ c ∈ rest.head?, Tree.isDigit c = false) :
    Tree.digits (ds ++ rest) = (values ds, rest) := by
  induction ds with
  | nil =>
    cases rest with
    | nil => rfl
    | cons c rest => simp [Tree.digits, values, stops c rfl]
  | cons d ds ih =>
    have first := digits d (by simp)
    have others := ih fun c member => digits c (by simp [member])
    simp only [Tree.digits, Prod.mk.injEq] at others
    simp [Tree.digits, values, first, others.1, others.2]

theorem digits?_append {ds rest : List Char} (digits : IsDigits ds)
    (stops : ∀ c ∈ rest.head?, Tree.isDigit c = false) :
    Tree.digits? (ds ++ rest) = some (values ds, rest) := by
  have nonempty : (values ds).isEmpty = false := by simpa [values] using digits.1
  simp [Tree.digits?, digits_append digits.2 stops, nonempty]

theorem zero_of_value {c : Char} (digit : Tree.isDigit c = true) (zero : c.toNat - 48 = 0) :
    c = '0' := by
  have bounds : 48 ≤ c.toNat := by
    simp only [Tree.isDigit, Bool.and_eq_true, decide_eq_true_eq] at digit
    exact digit.1
  apply Char.toNat_inj.mp
  simp only [Char.reduceToNat]
  omega

theorem whole?_append {ds rest : List Char} (digits : IsDigits ds)
    (lead : ds.head? ≠ some '0' ∨ ds.length = 1)
    (stops : ∀ c ∈ rest.head?, Tree.isDigit c = false) :
    Tree.whole? (ds ++ rest) = some (values ds, rest) := by
  have allowed : (values ds).head? ≠ some 0 ∨ (values ds).length = 1 := by
    refine lead.imp (fun ne zero => ?_) fun one => by simpa [values] using one
    cases ds with
    | nil => exact digits.1 rfl
    | cons d ds =>
      have value : d.toNat - 48 = 0 := by simpa [values] using zero
      exact ne (congrArg some (zero_of_value (digits.2 d (by simp)) value))
  rw [Tree.whole?, digits?_append digits stops, Option.bind_eq_bind, Option.bind_some]
  dsimp only
  rw [(Option.guard_eq_some' ()).mpr allowed]
  rfl

theorem fraction?_append {fraction : Option (List Char)} {rest : List Char}
    (digits : ∀ ds ∈ fraction, IsDigits ds)
    (stops : ∀ c ∈ rest.head?, Tree.isDigit c = false ∧ c ≠ '.') :
    Tree.fraction? (fractionChars fraction ++ rest) = some (fraction.map values, rest) := by
  cases fraction with
  | none =>
    cases rest with
    | nil => rfl
    | cons c rest =>
      have noPoint := (stops c rfl).2
      simp [fractionChars, Tree.fraction?, noPoint]
  | some ds =>
    have read := digits?_append (digits ds rfl) fun c first => (stops c first).1
    simp [fractionChars, Tree.fraction?, read]

theorem exponent?_append {exponent : Option (Bool × List Char)} {rest : List Char}
    (digits : ∀ e ∈ exponent, IsDigits e.2) (ends : Ends rest) :
    Tree.exponent? (exponentChars exponent ++ rest) =
      some (exponent.map fun (minus, ds) => (minus, values ds), rest) := by
  cases exponent with
  | none =>
    cases rest with
    | nil => rfl
    | cons c rest =>
      obtain ⟨_, _, noSmall, noLarge⟩ := ends c rfl
      simp [exponentChars, Tree.exponent?, noSmall, noLarge]
  | some e =>
    obtain ⟨minus, ds⟩ := e
    have read := digits?_append (digits (minus, ds) rfl) fun c first => (ends c first).1
    cases minus <;> simp [exponentChars, Tree.exponent?, Tree.power?, read]

theorem stops_exponent (exponent : Option (Bool × List Char)) {rest : List Char}
    (ends : Ends rest) :
    ∀ c ∈ (exponentChars exponent ++ rest).head?, Tree.isDigit c = false ∧ c ≠ '.' := by
  cases exponent with
  | none => exact fun c first => ⟨(ends c first).1, (ends c first).2.1⟩
  | some e =>
    intro c first
    obtain rfl : 'e' = c := by simpa [exponentChars] using first
    decide

theorem stops_fraction (fraction : Option (List Char)) {rest : List Char}
    (stops : ∀ c ∈ rest.head?, Tree.isDigit c = false) :
    ∀ c ∈ (fractionChars fraction ++ rest).head?, Tree.isDigit c = false := by
  cases fraction with
  | none => exact stops
  | some ds =>
    intro c first
    obtain rfl : '.' = c := by simpa [fractionChars] using first
    decide

/-- The reader takes a numeral off the front of a text and leaves what follows it. -/
theorem number?_chars {n : Numeral} (wf : n.WellFormed) {rest : List Char} (ends : Ends rest) :
    Tree.number? (n.chars ++ rest) = some (n.lexeme.number?, rest) := by
  have whole := whole?_append wf.whole wf.lead
    (stops_fraction n.fraction fun c first => (stops_exponent n.exponent ends c first).1)
  have fraction := fraction?_append wf.fraction (stops_exponent n.exponent ends)
  have exponent := exponent?_append wf.exponent ends
  obtain ⟨negative, ds, f, e⟩ := n
  cases negative with
  | true =>
    simp only [chars, sign, if_true, List.singleton_append, Tree.number?, lexeme]
    simp [whole, fraction, exponent]
  | false =>
    cases ds with
    | nil => exact absurd rfl wf.whole.1
    | cons d ds =>
      have noSign : d ≠ '-' := by
        rintro rfl
        exact absurd (wf.whole.2 '-' (by simp)) (by decide)
      simp only [chars, sign, Bool.false_eq_true, if_false, List.nil_append, List.append_assoc,
        List.cons_append, Tree.number?, lexeme] at whole ⊢
      simp [noSign, whole, fraction, exponent]

/-! Numbers are written as numerals. -/

theorem isDigits_toDigits (n : Nat) : IsDigits (Nat.toDigits 10 n) := by
  refine ⟨Nat.toDigits_ne_nil, fun c member => ?_⟩
  have digit := Nat.isDigit_of_mem_toDigits (by decide) (by decide) member
  simpa [Tree.isDigit, Char.le_def, Char.isDigit] using digit

theorem lead_toDigits {n : Nat} (positive : n ≠ 0) : (Nat.toDigits 10 n).head? ≠ some '0' := by
  induction n using Nat.strongRecOn with
  | ind n ih =>
    rcases Nat.lt_or_ge n 10 with small | large
    · rw [Nat.toDigits_of_lt_base small]
      intro zero
      have value := Nat.toNat_digitChar_sub_48_of_lt_ten small
      rw [show n.digitChar = '0' by simpa using zero] at value
      exact positive value.symm
    · rw [Nat.toDigits_of_base_le (by decide) large, List.head?_append]
      have lead := ih (n / 10) (by omega) (by omega)
      cases digits : Nat.toDigits 10 (n / 10) with
      | nil => exact absurd digits Nat.toDigits_ne_nil
      | cons d ds => simpa [digits] using lead

theorem values_toDigits (n : Nat) : Lexeme.decimal (values (Nat.toDigits 10 n)) = n := by
  have value := Nat.ofDigitChars_ten_toDigits (n := n)
  simpa [Lexeme.decimal, values, Nat.ofDigitChars, List.foldl_map] using value

/-- The numeral of a decimal, laid out as the writer lays out a float. -/
def ofDecimal (negative : Bool) (ds : List Char) (k : Int) : Numeral :=
  let lead : Int := ds.length + k
  if 0 ≤ k ∧ lead ≤ 16 then ⟨negative, ds ++ List.replicate k.toNat '0', some ['0'], none⟩
  else if 0 < lead ∧ lead ≤ 16 then
    ⟨negative, ds.take lead.toNat, some (ds.drop lead.toNat), none⟩
  else if -5 < lead ∧ lead ≤ 0 then
    ⟨negative, ['0'], some (List.replicate (-lead).toNat '0' ++ ds), none⟩
  else
    ⟨negative, ds.take 1, if ds.length = 1 then none else some (ds.drop 1),
      some (lead - 1 < 0, Nat.toDigits 10 (lead - 1).natAbs)⟩

theorem chars_ofDecimal (negative : Bool) (ds : List Char) (k : Int) :
    sign negative ++ Binary64.layout ds k = (ofDecimal negative ds k).chars := by
  unfold Binary64.layout ofDecimal
  simp only
  split
  · simp [chars, fractionChars, exponentChars]
  split
  · simp [chars, fractionChars, exponentChars]
  split
  · simp [chars, fractionChars, exponentChars]
  · by_cases one : ds.length = 1 <;>
      simp [chars, fractionChars, exponentChars, Binary64.exponentText, one]

theorem IsDigits.append_zeros {ds : List Char} (digits : IsDigits ds) (n : Nat) :
    IsDigits (ds ++ List.replicate n '0') := by
  refine ⟨by simp [digits.1], fun c member => ?_⟩
  rcases List.mem_append.mp member with member | zero
  · exact digits.2 c member
  · rw [(List.mem_replicate.mp zero).2]
    decide

theorem IsDigits.zeros_append {ds : List Char} (digits : IsDigits ds) (n : Nat) :
    IsDigits (List.replicate n '0' ++ ds) := by
  refine ⟨by simp [digits.1], fun c member => ?_⟩
  rcases List.mem_append.mp member with zero | member
  · rw [(List.mem_replicate.mp zero).2]
    decide
  · exact digits.2 c member

theorem IsDigits.take {ds : List Char} (digits : IsDigits ds) {n : Nat} (positive : 0 < n) :
    IsDigits (ds.take n) := by
  refine ⟨?_, fun c member => digits.2 c (List.mem_of_mem_take member)⟩
  intro empty
  rcases List.take_eq_nil_iff.mp empty with zero | nil
  · omega
  · exact digits.1 nil

theorem IsDigits.drop {ds : List Char} (digits : IsDigits ds) {n : Nat} (shorter : n < ds.length) :
    IsDigits (ds.drop n) := by
  refine ⟨?_, fun c member => digits.2 c (List.mem_of_mem_drop member)⟩
  intro empty
  have := List.drop_eq_nil_iff.mp empty
  omega

/-- Only zero itself may begin with a zero, and then nothing may follow it. -/
theorem wellFormed_ofDecimal {negative : Bool} {ds : List Char} {k : Int} (digits : IsDigits ds)
    (lead : ds.head? ≠ some '0' ∨ (ds.length = 1 ∧ k ≤ 0)) :
    (ofDecimal negative ds k).WellFormed := by
  have first {n : Nat} (positive : 0 < n) (nonzero : ds.head? ≠ some '0') :
      (ds.take n).head? ≠ some '0' := by
    cases ds with
    | nil => exact absurd rfl digits.1
    | cons d ds =>
      obtain ⟨m, rfl⟩ : ∃ m, n = m + 1 := ⟨n - 1, by omega⟩
      simpa using nonzero
  unfold ofDecimal
  simp only
  split
  case isTrue positional =>
    refine ⟨digits.append_zeros _, ?_, ?_, by simp⟩
    · rcases lead with nonzero | ⟨one, atMost⟩
      · left
        cases ds with
        | nil => exact absurd rfl digits.1
        | cons d ds => simpa using nonzero
      · right
        have none : k.toNat = 0 := by omega
        simp [one, none]
    · rintro _ ⟨⟩
      exact isDigits_zero
  split
  case isTrue outside pointed =>
    have positive : 0 < (↑ds.length + k).toNat := by omega
    refine ⟨digits.take positive, ?_, ?_, by simp⟩
    · rcases lead with nonzero | ⟨one, atMost⟩
      · exact .inl (first positive nonzero)
      · right
        simp only [List.length_take]
        omega
    · rintro _ ⟨⟩
      exact digits.drop (by omega)
  split
  case isTrue outside pointless small =>
    refine ⟨isDigits_zero, .inr rfl, ?_, by simp⟩
    rintro _ ⟨⟩
    exact digits.zeros_append _
  case isFalse =>
    have length : 0 < ds.length := List.length_pos_iff.mpr digits.1
    refine ⟨digits.take (by decide), .inr (by simp only [List.length_take]; omega), ?_, ?_⟩
    · intro fs given
      split at given
      · cases given
      · cases given
        exact digits.drop (by omega)
    · rintro _ ⟨⟩
      exact isDigits_toDigits _

end Numeral

namespace Binary64

/-! The shortest decimal of a positive number is written with no needless zero. -/

theorem Interval.not_holds_zero {i : Interval} (low : 0 < i.low) (k : Int) :
    i.holds 0 k = false := by
  have scaled : 0 < i.low * Nat.pow 10 (-k).toNat :=
    Nat.mul_pos low (Nat.pow_pos (by decide))
  unfold holds
  split <;> simp only [Nat.zero_mul, Bool.and_eq_false_iff, decide_eq_false_iff_not] <;> omega

theorem Interval.onGrid?_positive {i : Interval} (low : 0 < i.low) {k : Int} {c : Nat}
    (found : i.onGrid? k = some c) : c ≠ 0 := by
  rintro rfl
  have outside := not_holds_zero low k
  unfold onGrid? at found
  simp only at found
  split at found
  case h_1 below _ =>
    have zero := Option.some.inj found
    split at zero
    · rw [zero, outside] at below
      cases below
    · exact absurd zero (Nat.succ_ne_zero _)
  case h_2 below _ =>
    rw [Option.some.inj found, outside] at below
    cases below
  case h_3 => exact absurd (Option.some.inj found) (Nat.succ_ne_zero _)
  case h_4 => cases found

theorem Interval.search_zero {i : Interval} (low : 0 < i.low) (den : 0 < i.den) {lead : Int}
    (above : 0 < lead → i.den ≤ i.mid) {fuel n : Nat} (start : 0 < n)
    (zero : (i.search lead fuel n).1 = 0) : (i.search lead fuel n).2 ≤ 0 := by
  induction fuel generalizing n with
  | zero =>
    simp only [search] at zero ⊢
    refine Int.not_lt.mp fun positive => ?_
    have unscaled : (↑n - 1 - lead).toNat = 0 := by omega
    rw [unscaled, show Nat.pow 10 0 = 1 from rfl, Nat.mul_one] at zero
    have below := (Nat.div_eq_zero_iff.mp zero).resolve_left (by omega)
    have := above (by omega)
    omega
  | succ fuel ih =>
    simp only [search] at zero ⊢
    split at zero
    case h_1 c found => exact absurd zero (onGrid?_positive low found)
    case h_2 => exact ih (by omega) zero

theorem stripZeros_zero {fuel c : Nat} {k : Int} (zero : (stripZeros fuel c k).1 = 0) :
    c = 0 ∧ (stripZeros fuel c k).2 = k := by
  induction fuel generalizing c k with
  | zero => exact ⟨zero, rfl⟩
  | succ fuel ih =>
    simp only [stripZeros] at zero ⊢
    split at zero
    case isTrue more =>
      have := (ih zero).1
      omega
    case isFalse last =>
      rw [if_neg last]
      exact ⟨zero, rfl⟩

theorem two_pow_positive (n : Nat) : 0 < Nat.pow 2 n := Nat.pow_pos (by decide)

theorem low_interval {x : Binary64} (nonzero : x.isZero = false) : 0 < x.interval.low := by
  have gap := two_pow_positive x.shift
  have units : x.significand * Nat.pow 2 x.shift ≠ 0 := by simpa [isZero, units] using nonzero
  have least : Nat.pow 2 x.shift ≤ x.significand * Nat.pow 2 x.shift :=
    Nat.le_mul_of_pos_left _ (Nat.pos_of_ne_zero fun zero => units (by rw [zero, Nat.zero_mul]))
  simp only [interval, Binary64.units]
  split <;> omega

theorem oneUnits_positive : 0 < oneUnits := by
  unfold oneUnits
  generalize 1074 = n
  exact two_pow_positive n

theorem den_interval (x : Binary64) : 0 < x.interval.den := by
  have units := oneUnits_positive
  simp only [interval]
  omega

theorem decimalExponent_positive {num den : Nat} (positive : 0 < decimalExponent num den) :
    den ≤ num := by
  unfold decimalExponent at positive
  split at positive
  · assumption
  · simp only at positive
    split at positive <;> omega

theorem shortest_zero {x : Binary64} (nonzero : x.isZero = false) (zero : x.shortest.1 = 0) :
    x.shortest.2 ≤ 0 := by
  simp only [shortest] at zero ⊢
  obtain ⟨none, same⟩ := stripZeros_zero zero
  rw [same]
  exact Interval.search_zero (low_interval nonzero) (den_interval x) decimalExponent_positive
    (by decide) none

end Binary64

namespace Number

def numeral : Number → Numeral
  | .integer n => ⟨n < 0, Nat.toDigits 10 n.natAbs, none, none⟩
  | .float x =>
    let (c, k) := if x.isZero then (0, 0) else x.shortest
    .ofDecimal x.negative (Nat.toDigits 10 c) k

theorem toList_writeNumber (n : Number) : (Value.writeNumber n).toList = n.numeral.chars := by
  cases n with
  | integer n =>
    simp only [Value.writeNumber, Int.toString_eq_repr, Int.repr_eq_if, numeral, Numeral.chars]
    by_cases negative : n < 0
    · have opposite : (-n).toNat = n.natAbs := by omega
      simp [Numeral.sign, Numeral.fractionChars, Numeral.exponentChars, negative, opposite,
        Int.not_le.mpr negative]
    · have same : n.toNat = n.natAbs := by omega
      simp [Numeral.sign, Numeral.fractionChars, Numeral.exponentChars, negative, same,
        Int.not_lt.mp negative]
  | float x => simp [Value.writeNumber, Binary64.text, numeral, ← Numeral.chars_ofDecimal,
      Numeral.sign]

theorem wellFormed_numeral (n : Number) : n.numeral.WellFormed := by
  cases n with
  | integer n =>
    refine ⟨Numeral.isDigits_toDigits _, ?_, by simp [numeral], by simp [numeral]⟩
    by_cases zero : n = 0
    · right
      simp [numeral, zero]
    · exact .inl (Numeral.lead_toDigits (by omega))
  | float x =>
    simp only [numeral]
    cases zero : x.isZero with
    | true => exact Numeral.wellFormed_ofDecimal (Numeral.isDigits_toDigits _) (.inr (by simp))
    | false =>
      refine Numeral.wellFormed_ofDecimal (Numeral.isDigits_toDigits _) ?_
      by_cases none : x.shortest.1 = 0
      · right
        exact ⟨by simp [none], Binary64.shortest_zero zero none⟩
      · exact .inl (Numeral.lead_toDigits none)

/-- What the written number is read back as: a float may come back as a neighbour. -/
def reread (n : Number) : Option Number := n.numeral.lexeme.number?

theorem number?_writeNumber (n : Number) {rest : List Char} (ends : Numeral.Ends rest) :
    Tree.number? ((Value.writeNumber n).toList ++ rest) = some (n.reread, rest) := by
  rw [toList_writeNumber]
  exact Numeral.number?_chars n.wellFormed_numeral ends

end Number

theorem Lexeme.le_foldl (significand : Nat) (ds : List Nat) :
    significand ≤ ds.foldl (10 * · + ·) significand := by
  induction ds generalizing significand with
  | nil => exact Nat.le_refl _
  | cons d ds ih => exact Nat.le_trans (by omega) (ih (10 * significand + d))

theorem Lexeme.takeDigits_fits {significand : Nat} {ds : List Nat}
    (fits : ds.foldl (10 * · + ·) significand ≤ wordMax) :
    takeDigits significand ds = (ds.foldl (10 * · + ·) significand, ds.length, 0) := by
  induction ds generalizing significand with
  | nil => rfl
  | cons d ds ih =>
    have next : 10 * significand + d ≤ wordMax := Nat.le_trans (le_foldl _ ds) fits
    simp [takeDigits, Nat.not_lt.mpr next, ih fits]

/-- An integer of 64 bits, with or without a sign, is read back as it is. -/
theorem Number.reread_integer {n : Int} (low : -Lexeme.negativeMax ≤ n)
    (high : n ≤ Lexeme.wordMax) : (integer n).reread = some (integer n) := by
  have value : Lexeme.decimal (Numeral.values (Nat.toDigits 10 n.natAbs)) = n.natAbs :=
    Numeral.values_toDigits n.natAbs
  have larger : Lexeme.negativeMax ≤ Lexeme.wordMax := by decide
  have fits : n.natAbs ≤ Lexeme.wordMax := by omega
  have taken := Lexeme.takeDigits_fits (Nat.le_trans (Nat.le_of_eq value) fits)
  rw [← Lexeme.decimal, value] at taken
  simp only [reread, numeral, Numeral.lexeme, Lexeme.number?, Option.map_none, taken, if_true,
    decide_eq_true_eq]
  by_cases negative : n < 0
  · have inRange : 1 ≤ n.natAbs ∧ n.natAbs ≤ Lexeme.negativeMax := by omega
    have opposite : -(n.natAbs : Int) = n := by omega
    simp only [negative, inRange, opposite, if_true, and_self]
  · have same : (n.natAbs : Int) = n := by omega
    simp only [negative, same, if_false]

end Onboarding
