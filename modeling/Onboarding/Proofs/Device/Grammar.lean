import Onboarding.Proofs.Device.Canonical

/-! Texts that are no addresses. Canonical forms look at the length of a text and count its
separators: where these stand, and what stands between colons, is not looked at. So some texts that
are no address are changed like one. They are told apart here from all other texts, which either are
addresses or stay as they are. -/
namespace Onboarding.Device

/-- The text is an address. -/
def Spelled (s : String) : Prop := ∃ ds, Spells s ds

/-- Twelve digits are left of the text when five dashes, two dots or nothing is taken out of it,
wherever the separators stand. -/
inductive Leaves (s : String) (ds : List Char) : Prop where
  | dashes (count : s.toList.count '-' = 5) (rest : without '-' s.toList = ds)
  | dots (count : s.toList.count '.' = 2) (rest : without '.' s.toList = ds)
  | bare (same : s.toList = ds)

/-- A text that is no address and is changed like one, and what it is changed to. -/
inductive Stray (s : String) : String → Prop where
  | lettered (unspelled : ¬ Spelled s) (size : s.utf8ByteSize = 17)
    (colons : s.toList.count ':' = 5) (changes : Text.lower s ≠ s) : Stray s (Text.lower s)
  | scattered {ds : List Char} (unspelled : ¬ Spelled s) (length : ds.length = 12)
    (hex : ∀ c ∈ ds, isHexDigit c = true) (leaves : Leaves s ds) :
    Stray s (String.ofList (Style.colons.write (ds.map Char.toLower)))

/-- An address gets the colon form of its digits in lower case, any other text stays as it is. -/
structure ByGrammar (s : String) : Prop where
  address : ∀ ds, Spells s ds →
    canonicalAddress s = String.ofList (Style.colons.write (ds.map Char.toLower))
  other : ¬ Spelled s → canonicalAddress s = s

/-! Whether a text is an address can be told from its digits alone. -/

theorem filter_write {ds : List Char} (length : ds.length = 12)
    (hex : ∀ c ∈ ds, isHexDigit c = true) (style : Style) :
    (style.write ds).filter isHexDigit = ds := by
  have all : ds.filter isHexDigit = ds := List.filter_eq_self.mpr hex
  have pairs : (ds.toChunks 2).flatten = ds := by
    match ds, length with
    | [a, b, c, d, e, f, g, h, i, j, k, l], _ => rfl
  have quads : (ds.toChunks 4).flatten = ds := by
    match ds, length with
    | [a, b, c, d, e, f, g, h, i, j, k, l], _ => rfl
  cases style with
  | colons => rw [Style.write, filter_intercalate (by decide), pairs, all]
  | dashes => rw [Style.write, filter_intercalate (by decide), pairs, all]
  | dots => rw [Style.write, filter_intercalate (by decide), quads, all]
  | bare => exact all

theorem Spells.digits {s : String} {ds : List Char} (spells : Spells s ds) :
    s.toList.filter isHexDigit = ds := by
  obtain ⟨length, hex, style, rfl⟩ := spells
  rw [String.toList_ofList, filter_write length hex style]

theorem spells_iff {s : String} {ds : List Char} :
    Spells s ds ↔ ds.length = 12 ∧ ds.all isHexDigit = true ∧
      ∃ style ∈ [Style.colons, .dashes, .dots, .bare], s = String.ofList (style.write ds) := by
  constructor
  · rintro ⟨length, hex, style, written⟩
    exact ⟨length, List.all_eq_true.mpr hex, style, by cases style <;> simp, written⟩
  · rintro ⟨length, hex, style, -, written⟩
    exact ⟨length, List.all_eq_true.mp hex, style, written⟩

instance (s : String) (ds : List Char) : Decidable (Spells s ds) := decidable_of_iff' _ spells_iff

theorem spelled_iff {s : String} : Spelled s ↔ Spells s (s.toList.filter isHexDigit) := by
  constructor
  · rintro ⟨ds, spells⟩
    rw [spells.digits]
    exact spells
  · intro spells
    exact ⟨_, spells⟩

instance (s : String) : Decidable (Spelled s) := decidable_of_iff' _ spelled_iff

/-! What is left without separators. -/

section Leaves

variable {s : String} {ds : List Char}

theorem leaves_of_bare? (bare : bare? s = some ds) : Leaves s ds := by
  rcases bare?_eq_some_iff.mp bare with ⟨⟨-, count⟩, rest⟩ | ⟨⟨-, count⟩, rest⟩ | ⟨-, same⟩
  · exact .dashes count rest
  · exact .dots count rest
  · exact .bare same

theorem Leaves.noColon (leaves : Leaves s ds) (hex : ∀ c ∈ ds, isHexDigit c = true) :
    ':' ∉ s.toList := by
  intro member
  have inside : ':' ∈ ds := by
    cases leaves with
    | dashes count rest => exact rest ▸ List.mem_filter.mpr ⟨member, by decide⟩
    | dots count rest => exact rest ▸ List.mem_filter.mpr ⟨member, by decide⟩
    | bare same => exact same ▸ member
  exact (plain_of_isHexDigit (hex ':' inside)).2.2.1 rfl

theorem Leaves.bare? (leaves : Leaves s ds) (length : ds.length = 12)
    (hex : ∀ c ∈ ds, isHexDigit c = true) : bare? s = some ds := by
  have sizes := utf8Size_digits hex
  rw [bare?_eq_some_iff]
  cases leaves with
  | dashes count rest =>
    subst rest
    have size := utf8ByteSize_without (by decide) sizes
    rw [String.ofList_toList, length, count] at size
    exact .inl ⟨⟨size, count⟩, rfl⟩
  | dots count rest =>
    subst rest
    have size := utf8ByteSize_without (by decide) sizes
    rw [String.ofList_toList, length, count] at size
    exact .inr (.inl ⟨⟨size, count⟩, rfl⟩)
  | bare same =>
    subst same
    have size := utf8ByteSize_plain sizes
    rw [String.ofList_toList, length] at size
    exact .inr (.inr ⟨size, rfl⟩)

/-- Digits get their colon form wherever the separators have been. -/
theorem Leaves.canonical (leaves : Leaves s ds) (length : ds.length = 12)
    (hex : ∀ c ∈ ds, isHexDigit c = true) :
    canonicalAddress s = String.ofList (Style.colons.write (ds.map Char.toLower)) := by
  have noColons : ¬(s.utf8ByteSize = 17 ∧ s.toList.count ':' = 5) := by
    rintro ⟨-, count⟩
    rw [List.count_eq_zero.mpr (leaves.noColon hex)] at count
    cases count
  rw [canonicalAddress_of_bare length hex noColons (leaves.bare? length hex),
    joinPairs_lower length]

theorem Leaves.changes (leaves : Leaves s ds) (length : ds.length = 12)
    (hex : ∀ c ∈ ds, isHexDigit c = true) : canonicalAddress s ≠ s := by
  intro same
  have colon : ':' ∈ Style.colons.write (ds.map Char.toLower) := by
    rw [← joinPairs_lower length]
    match ds, length with
    | [a, b, c, d, e, f, g, h, i, j, k, l], _ => simp [joinPairs]
  refine leaves.noColon hex ?_
  rw [← same, leaves.canonical length hex, String.toList_ofList]
  exact colon

end Leaves

theorem Stray.canonical {s t : String} (stray : Stray s t) : canonicalAddress s = t := by
  cases stray with
  | lettered unspelled size colons changes => exact canonicalAddress_of_colons ⟨size, colons⟩
  | scattered unspelled length hex leaves => exact leaves.canonical length hex

theorem Stray.changed {s t : String} (stray : Stray s t) : ¬ Spelled s ∧ canonicalAddress s ≠ s := by
  cases stray with
  | lettered unspelled size colons changes =>
    rw [canonicalAddress_of_colons ⟨size, colons⟩]
    exact ⟨unspelled, changes⟩
  | scattered unspelled length hex leaves => exact ⟨unspelled, leaves.changes length hex⟩

/-- A text that is no address and does not stay as it is has gone astray. -/
theorem stray_of_changed {s : String} (unspelled : ¬ Spelled s) (changed : canonicalAddress s ≠ s) :
    Stray s (canonicalAddress s) := by
  rcases canonicalAddress_cases s with ⟨⟨size, colons⟩, lowered⟩ | ⟨ds, bare, length, hex, -⟩ | same
  · rw [lowered] at changed ⊢
    exact .lettered unspelled size colons changed
  · have leaves := leaves_of_bare? bare
    rw [leaves.canonical length hex]
    exact .scattered unspelled length hex leaves
  · exact absurd same changed

/-- Canonical forms go by the grammar of addresses for all texts but the strays, and what strays are
changed to is known. -/
theorem byGrammar_unless_stray (s : String) :
    (ByGrammar s ↔ ∀ t, ¬ Stray s t) ∧ ∀ t, Stray s t → canonicalAddress s = t := by
  refine ⟨⟨?_, ?_⟩, fun t => Stray.canonical⟩
  · intro kept t stray
    obtain ⟨unspelled, changed⟩ := stray.changed
    exact changed (kept.other unspelled)
  · intro noStray
    constructor
    · intro ds spells
      exact canonicalAddress_write spells
    · intro unspelled
      by_contra changed
      exact noStray _ (stray_of_changed unspelled changed)

/-- Dashes that stand anywhere. -/
theorem scattered_dashes :
    Stray "A-ABB-C-CDD-EE-FF" "aa:bb:cc:dd:ee:ff" ∧
      canonicalAddress "A-ABB-C-CDD-EE-FF" = "aa:bb:cc:dd:ee:ff" := by
  have leaves : Leaves "A-ABB-C-CDD-EE-FF" "AABBCCDDEEFF".toList :=
    .dashes (by decide) (by decide)
  have stray : Stray "A-ABB-C-CDD-EE-FF" "aa:bb:cc:dd:ee:ff" := by
    have made :=
      Stray.scattered (by decide) (by decide) (List.all_eq_true.mp (by decide)) leaves
    have form : String.ofList (Style.colons.write ("AABBCCDDEEFF".toList.map Char.toLower)) =
        "aa:bb:cc:dd:ee:ff" := by decide
    rw [form] at made
    exact made
  exact ⟨stray, (byGrammar_unless_stray _).2 _ stray⟩

/-- Letters that are no digits are lower-cased between five colons. -/
theorem lettered_colons : ¬ ∀ s, ByGrammar s := by
  intro kept
  have same := (kept "GG:HH:II:JJ:KK:LL").other (by decide)
  rw [canonicalAddress_of_colons (by decide)] at same
  exact absurd same (by decide +kernel)

end Onboarding.Device
