import Mathlib.Data.List.Defs
import Mathlib.Data.String.Basic
import Onboarding.Device.Address
import Onboarding.Proofs.Text.Lower

/-! Spellings of a hardware address. Whatever the style and the case of its digits, all spellings of
an address have one canonical form, and no two addresses share theirs. -/
namespace Onboarding.Device

/-- The customary ways to write an address. -/
inductive Style where
  | colons
  | dashes
  | dots
  | bare

/-- The digits of an address as they are written in a style. -/
def Style.write : Style → List Char → List Char
  | colons, ds => [':'].intercalate (ds.toChunks 2)
  | dashes, ds => ['-'].intercalate (ds.toChunks 2)
  | dots, ds => ['.'].intercalate (ds.toChunks 4)
  | bare, ds => ds

/-- The text is an address of these twelve digits, written in one of the styles. -/
structure Spells (s : String) (ds : List Char) : Prop where
  length : ds.length = 12
  hex : ∀ c ∈ ds, isHexDigit c = true
  written : ∃ style : Style, s = String.ofList (style.write ds)

/-- The texts are spellings of the same twelve digits, in any style and any case. -/
def SameAddress (s t : String) : Prop :=
  ∃ ds es, Spells s ds ∧ Spells t es ∧ ds.map Char.toLower = es.map Char.toLower

theorem mem_digits_of_isHexDigit {c : Char} (hex : isHexDigit c = true) :
    c ∈ "0123456789abcdefABCDEF".toList := by
  have bounds : 48 ≤ c.toNat ∧ c.toNat ≤ 57 ∨ 97 ≤ c.toNat ∧ c.toNat ≤ 102 ∨
      65 ≤ c.toNat ∧ c.toNat ≤ 70 := by
    simpa [isHexDigit, Char.le_def, UInt32.le_iff_toNat_le, or_assoc] using hex
  have listed : c.toNat ∈ List.range' 48 10 ++ List.range' 97 6 ++ List.range' 65 6 := by
    simp only [List.mem_append, List.mem_range'_1]
    omega
  rw [← Char.ofNat_toNat c]
  have each : ∀ n ∈ List.range' 48 10 ++ List.range' 97 6 ++ List.range' 65 6,
      Char.ofNat n ∈ "0123456789abcdefABCDEF".toList := by decide
  exact each _ listed

/-- A digit is one byte long, none of the separators, and lower-cased by itself. -/
theorem plain_of_isHexDigit {c : Char} (hex : isHexDigit c = true) :
    c.utf8Size = 1 ∧ (c ≠ '-' ∧ c ≠ '.') ∧ c ≠ ':' ∧ c ≠ 'Σ' ∧ Text.lowerChar c = [c.toLower] := by
  -- over the digits alone, not over all characters
  have each : "0123456789abcdefABCDEF".toList.all (fun c => decide (c.utf8Size = 1 ∧
      (c ≠ '-' ∧ c ≠ '.') ∧ c ≠ ':' ∧ c ≠ 'Σ' ∧ Text.lowerChar c = [c.toLower])) = true := by
    decide +kernel
  exact of_decide_eq_true (List.all_eq_true.mp each c (mem_digits_of_isHexDigit hex))

theorem count_intercalate {sep : Char} : ∀ (groups : List (List Char)),
    (∀ g ∈ groups, sep ∉ g) → ([sep].intercalate groups).count sep = groups.length - 1
  | [], _ => rfl
  | [g], absent => by
    rw [List.intercalate_singleton, List.count_eq_zero.mpr (absent g (List.mem_cons_self ..))]
    rfl
  | g :: h :: groups, absent => by
    have first := List.count_eq_zero.mpr (absent g (List.mem_cons_self ..))
    have others := count_intercalate (h :: groups) fun g member =>
      absent g (List.mem_cons_of_mem _ member)
    rw [List.intercalate_cons_cons, List.count_append, List.count_append, first, others]
    simp
    omega

theorem without_absent {sep : Char} {cs : List Char} (absent : sep ∉ cs) : without sep cs = cs :=
  List.filter_eq_self.mpr fun c member => by simpa using ne_of_mem_of_not_mem member absent

/-- Separators that are to be left out leave the groups. -/
theorem filter_intercalate {p : Char → Bool} {sep : Char} (out : p sep = false) :
    ∀ groups : List (List Char), ([sep].intercalate groups).filter p = groups.flatten.filter p
  | [] => rfl
  | [g] => by rw [List.intercalate_singleton, List.flatten_singleton]
  | g :: h :: groups => by
    have others := filter_intercalate out (h :: groups)
    rw [List.intercalate_cons_cons, List.filter_append, List.filter_append, others,
      List.filter_singleton, out, List.flatten_cons (l := g), List.filter_append]
    simp

theorem without_intercalate {sep : Char} {groups : List (List Char)}
    (absent : ∀ g ∈ groups, sep ∉ g) : without sep ([sep].intercalate groups) = groups.flatten := by
  have apart : sep ∉ groups.flatten := by
    intro member
    obtain ⟨g, group, inside⟩ := List.mem_flatten.mp member
    exact absent g group inside
  rw [without, filter_intercalate (by simp)]
  exact without_absent apart

theorem utf8ByteSize_plain {cs : List Char} (sizes : ∀ c ∈ cs, c.utf8Size = 1) :
    (String.ofList cs).utf8ByteSize = cs.length := by
  rw [String.utf8ByteSize_ofList]
  induction cs with
  | nil => rfl
  | cons c cs ih =>
    rw [String.utf8Len_cons, sizes c (List.mem_cons_self ..),
      ih fun c member => sizes c (List.mem_cons_of_mem _ member), List.length_cons]

/-- A text of separators and of what is left without them, if all of that is one byte each. -/
theorem utf8ByteSize_without {sep : Char} {cs : List Char} (size : sep.utf8Size = 1)
    (sizes : ∀ c ∈ without sep cs, c.utf8Size = 1) :
    (String.ofList cs).utf8ByteSize = (without sep cs).length + cs.count sep := by
  have all : ∀ c ∈ cs, c.utf8Size = 1 := by
    intro c member
    by_cases same : c = sep
    · rw [same, size]
    · exact sizes c (List.mem_filter.mpr ⟨member, by simpa using same⟩)
  rw [utf8ByteSize_plain all, without, List.length_eq_length_filter_add (· != sep),
    List.count_eq_length_filter]
  simp [bne]

section Groups

variable {sep : Char} {groups : List (List Char)}

theorem forall_intercalate {p : Char → Prop} (absent : ∀ g ∈ groups, sep ∉ g) (here : p sep)
    (others : ∀ c ∈ groups.flatten, p c) : ∀ c ∈ [sep].intercalate groups, p c := by
  intro c member
  by_cases same : c = sep
  · exact same ▸ here
  · refine others c (without_intercalate absent ▸ List.mem_filter.mpr ⟨member, ?_⟩)
    simpa using same

theorem utf8ByteSize_intercalate (size : sep.utf8Size = 1) (absent : ∀ g ∈ groups, sep ∉ g)
    (sizes : ∀ c ∈ groups.flatten, c.utf8Size = 1) :
    (String.ofList ([sep].intercalate groups)).utf8ByteSize =
      groups.flatten.length + (groups.length - 1) := by
  rw [← without_intercalate absent] at sizes
  rw [utf8ByteSize_without size sizes, without_intercalate absent, count_intercalate groups absent]

end Groups

theorem canonicalAddress_of_bare {s : String} {ds : List Char} (length : ds.length = 12)
    (hex : ∀ c ∈ ds, isHexDigit c = true)
    (colons : ¬(s.utf8ByteSize = 17 ∧ s.toList.count ':' = 5)) (bare : bare? s = some ds) :
    canonicalAddress s = String.ofList (joinPairs (ds.map Char.toLower)) := by
  rw [canonicalAddress, if_neg colons, bare]
  exact if_pos ⟨length, List.all_eq_true.mpr hex⟩

theorem canonicalAddress_spelled {s : String} {ds : List Char} (spells : Spells s ds) :
    canonicalAddress s = String.ofList (joinPairs (ds.map Char.toLower)) := by
  obtain ⟨length, hex, style, rfl⟩ := spells
  have plain := fun c member => plain_of_isHexDigit (hex c member)
  have sizes := fun c member => (plain c member).1
  have absent (groups : List (List Char)) {sep : Char} (apart : ∀ c ∈ ds, c ≠ sep)
      (among : groups.flatten = ds) : ∀ g ∈ groups, sep ∉ g := fun g group member =>
    apart sep (among ▸ List.mem_flatten.mpr ⟨g, group, member⟩) rfl
  match ds, length with
  | [a, b, c, d, e, f, g, h, i, j, k, l], length =>
    let pairs := [[a, b], [c, d], [e, f], [g, h], [i, j], [k, l]]
    let quads := [[a, b, c, d], [e, f, g, h], [i, j, k, l]]
    cases style with
    | colons =>
      have apart := absent pairs (fun c member => (plain c member).2.2.1) rfl
      have size := utf8ByteSize_intercalate rfl apart sizes
      have letters := forall_intercalate apart
        (p := fun c => c ≠ 'Σ' ∧ Text.lowerChar c = [c.toLower]) (by decide)
        fun c member => (plain c member).2.2.2
      have lowered := Text.lowerFrom_map letters []
      rw [canonicalAddress, String.toList_ofList]
      refine (if_pos ⟨size, count_intercalate _ apart⟩).trans ?_
      rw [Text.lower, String.toList_ofList]
      exact congrArg String.ofList lowered
    | dashes =>
      have apart := absent pairs (fun c member => (plain c member).2.1.1) rfl
      have size := utf8ByteSize_intercalate rfl apart sizes
      have noColon := forall_intercalate apart (p := (· ≠ ':')) (by decide) fun c member =>
        (plain c member).2.2.1
      refine canonicalAddress_of_bare length hex ?_ ?_
      · rintro ⟨-, count⟩
        rw [String.toList_ofList] at count
        cases (List.count_eq_zero.mpr fun member => noColon _ member rfl).symm.trans count
      · rw [bare?, String.toList_ofList]
        exact (if_pos ⟨size, count_intercalate _ apart⟩).trans
          (congrArg some (without_intercalate apart))
    | dots =>
      have apart := absent quads (fun c member => (plain c member).2.1.2) rfl
      have size := utf8ByteSize_intercalate rfl apart sizes
      refine canonicalAddress_of_bare length hex (fun taken => ?_) ?_
      · cases size.symm.trans taken.1
      · rw [bare?, String.toList_ofList, if_neg fun taken => ?_]
        · exact (if_pos ⟨size, count_intercalate _ apart⟩).trans
            (congrArg some (without_intercalate apart))
        · cases size.symm.trans taken.1
    | bare =>
      have size := utf8ByteSize_plain sizes
      refine canonicalAddress_of_bare length hex (fun taken => ?_) ?_
      · cases size.symm.trans taken.1
      · rw [bare?, String.toList_ofList, if_neg fun taken => ?_, if_neg fun taken => ?_]
        · exact if_pos size
        · cases size.symm.trans taken.1
        · cases size.symm.trans taken.1

theorem joinPairs_inj : ∀ {cs ds : List Char}, cs.length = ds.length →
    joinPairs cs = joinPairs ds → cs = ds
  | [], [], _, _ => rfl
  | [_], [_], _, same => same
  | [_, _], [_, _], _, same => same
  | a :: b :: c :: cs, d :: e :: f :: ds, length, same => by
    rw [joinPairs, joinPairs] at same
    · simp only [List.cons.injEq, true_and] at same
      obtain ⟨rfl, rfl, others⟩ := same
      rw [joinPairs_inj (Nat.succ.inj (Nat.succ.inj length)) others]
    all_goals rintro ⟨⟩

/-- Spellings have the same canonical form exactly if they have the same digits, up to case. -/
theorem canonicalAddress_eq_iff {s t : String} {ds es : List Char} (spells : Spells s ds)
    (spells' : Spells t es) :
    canonicalAddress s = canonicalAddress t ↔ ds.map Char.toLower = es.map Char.toLower := by
  rw [canonicalAddress_spelled spells, canonicalAddress_spelled spells']
  constructor
  · intro same
    refine joinPairs_inj ?_ (String.ofList_injective same)
    rw [List.length_map, List.length_map, spells.length, spells'.length]
  · intro same
    rw [same]

/-- All spellings of an address have one canonical form. -/
theorem SameAddress.canonical {s t : String} (same : SameAddress s t) :
    canonicalAddress s = canonicalAddress t := by
  obtain ⟨ds, es, spells, spells', digits⟩ := same
  exact (canonicalAddress_eq_iff spells spells').mpr digits

end Onboarding.Device
