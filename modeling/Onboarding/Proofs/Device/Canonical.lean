import Onboarding.Proofs.Device.Address

/-! Canonical forms cut out of the bytes of a text. Twelve digits are twelve bytes, so that their
pairs can be cut out byte by byte; no cut misses, whatever the text. Taking the canonical form of a
canonical form changes nothing: an address is written with colons then, and a text of another kind
is lower-cased already or has never been touched. -/
namespace Onboarding

namespace Text

/-- The part of a text between two bytes; nothing if they are out of range or out of order, or if one
of them is inside a character. -/
def part? (s : String) (first last : Nat) : Option String := do
  let start ← s.pos? ⟨first⟩
  let stop ← s.pos? ⟨last⟩
  let part ← s.slice? start stop
  return part.copy

theorem pos?_iff {s : String} {n : Nat} {p : s.Pos} :
    s.pos? ⟨n⟩ = some p ↔ p.offset.byteIdx = n := by
  constructor
  · intro found
    simp only [String.pos?, String.Slice.pos?] at found
    split at found
    · cases found
      rfl
    · cases found
  · rintro rfl
    have valid : p.offset.isValidForSlice s.toSlice = true :=
      String.Pos.Raw.isValidForSlice_eq_true_iff.mpr p.isValid.toSlice
    simp only [String.pos?, String.Slice.pos?]
    rw [dif_pos valid]
    rfl

/-- What is cut out is what stands between the bytes, so a cut succeeds only between characters. -/
theorem part?_eq_some_iff {s t : String} {first last : Nat} :
    part? s first last = some t ↔ ∃ before after, s = before ++ (t ++ after) ∧
      first = before.utf8ByteSize ∧ last = (before ++ t).utf8ByteSize := by
  constructor
  · intro cut
    simp only [part?, Option.bind_eq_bind, Option.bind_eq_some_iff, pos?_iff] at cut
    obtain ⟨start, rfl, stop, rfl, part, made, copied⟩ := cut
    simp only [String.slice?] at made
    split at made
    · rename_i ordered
      cases made
      cases copied
      obtain ⟨before, after, starts, stops⟩ := String.copy_slice_eq_iff_splits.mp ⟨ordered, rfl⟩
      refine ⟨before, after, starts.eq_append, ?_, ?_⟩
      · rw [starts.offset_eq_rawEndPos, String.byteIdx_rawEndPos]
      · rw [stops.offset_eq_rawEndPos, String.byteIdx_rawEndPos]
    · cases made
  · rintro ⟨before, after, whole, rfl, rfl⟩
    have whole' : s = before ++ t ++ after := by rw [whole, String.append_assoc]
    have starts := String.Pos.splits_ofEqAppend whole
    have stops := String.Pos.splits_ofEqAppend whole'
    obtain ⟨ordered, copied⟩ := String.copy_slice_eq_iff_splits.mpr ⟨before, after, starts, stops⟩
    simp only [part?, Option.bind_eq_bind, Option.bind_eq_some_iff, pos?_iff]
    refine ⟨_, rfl, _, rfl, _, dif_pos ordered, ?_⟩
    exact congrArg some copied

end Text

namespace Device

/-- The pairs of characters of a text of twelve bytes, cut out byte by byte. -/
def pairs? (s : String) : Option (List String) :=
  [0, 2, 4, 6, 8, 10].mapM fun i => Text.part? s i (i + 2)

/-- The canonical form with the pairs of digits cut out of the lower-cased text, which answers
nothing as soon as a cut misses. -/
def cutAddress? (s : String) : Option String :=
  if s.utf8ByteSize = 17 ∧ s.toList.count ':' = 5 then some (Text.lower s)
  else
    match bare? s with
    | none => some s
    | some ds =>
      if (String.ofList ds).utf8ByteSize = 12 ∧ ds.all isHexDigit then
        (pairs? (Text.lower (String.ofList ds))).map (":".intercalate)
      else some s

theorem part?_plain {cs : List Char} (sizes : ∀ c ∈ cs, c.utf8Size = 1) {first count : Nat}
    (bound : first + count ≤ cs.length) :
    Text.part? (String.ofList cs) first (first + count) =
      some (String.ofList ((cs.drop first).take count)) := by
  have before := utf8ByteSize_plain fun c member => sizes c (List.mem_of_mem_take (i := first) member)
  have through := utf8ByteSize_plain fun c member =>
    sizes c (List.mem_of_mem_take (i := first + count) member)
  have part : cs.take first ++ (cs.drop first).take count = cs.take (first + count) :=
    (List.take_add ..).symm
  rw [Text.part?_eq_some_iff]
  refine ⟨String.ofList (cs.take first), String.ofList (cs.drop (first + count)), ?_, ?_, ?_⟩
  · rw [← String.append_assoc, ← String.ofList_append, ← String.ofList_append, part,
      List.take_append_drop]
  · rw [before, List.length_take]
    omega
  · rw [← String.ofList_append, part, through, List.length_take]
    omega

/-- Twelve characters of one byte each are cut into their pairs. -/
theorem pairs?_plain {cs : List Char} (sizes : ∀ c ∈ cs, c.utf8Size = 1) (length : cs.length = 12) :
    (pairs? (String.ofList cs)).map (":".intercalate) = some (String.ofList (joinPairs cs)) := by
  have cut (i : Nat) (bound : i + 2 ≤ cs.length) := part?_plain sizes bound
  simp only [pairs?, List.mapM_cons, List.mapM_nil]
  rw [cut 0 (by omega), cut 2 (by omega), cut 4 (by omega), cut 6 (by omega), cut 8 (by omega),
    cut 10 (by omega)]
  match cs, length with
  | [a, b, c, d, e, f, g, h, i, j, k, l], _ =>
    refine congrArg some (String.toList_injective ?_)
    simp [joinPairs]

/-- The lower-case form of a digit is a digit, and stays as it is. -/
theorem lower_isHexDigit {c : Char} (hex : isHexDigit c = true) :
    isHexDigit c.toLower = true ∧ c.toLower.toLower = c.toLower := by
  have each : "0123456789abcdefABCDEF".toList.all (fun c =>
      decide (isHexDigit c.toLower = true ∧ c.toLower.toLower = c.toLower)) = true := by
    decide +kernel
  exact of_decide_eq_true (List.all_eq_true.mp each c (mem_digits_of_isHexDigit hex))

section Digits

variable {ds : List Char}

theorem hex_lower (hex : ∀ c ∈ ds, isHexDigit c = true) :
    ∀ c ∈ ds.map Char.toLower, isHexDigit c = true := by
  intro c member
  obtain ⟨d, digit, rfl⟩ := List.mem_map.mp member
  exact (lower_isHexDigit (hex d digit)).1

theorem lower_digits (hex : ∀ c ∈ ds, isHexDigit c = true) :
    Text.lower (String.ofList ds) = String.ofList (ds.map Char.toLower) := by
  have plain := fun c member => (plain_of_isHexDigit (hex c member)).2.2.2
  rw [Text.lower, String.toList_ofList, Text.lowerFrom_map plain]

theorem map_toLower_digits (hex : ∀ c ∈ ds, isHexDigit c = true) :
    (ds.map Char.toLower).map Char.toLower = ds.map Char.toLower := by
  rw [List.map_map]
  exact List.map_congr_left fun c member => (lower_isHexDigit (hex c member)).2

theorem utf8Size_digits (hex : ∀ c ∈ ds, isHexDigit c = true) : ∀ c ∈ ds, c.utf8Size = 1 :=
  fun c member => (plain_of_isHexDigit (hex c member)).1

theorem joinPairs_lower (length : ds.length = 12) :
    joinPairs (ds.map Char.toLower) = Style.colons.write (ds.map Char.toLower) := by
  match ds, length with
  | [a, b, c, d, e, f, g, h, i, j, k, l], _ => rfl

end Digits

/-- No cut misses, and the parts make up the canonical form. -/
theorem cutAddress?_eq (s : String) : cutAddress? s = some (canonicalAddress s) := by
  unfold cutAddress? canonicalAddress
  split
  · rfl
  · cases found : bare? s with
    | none => rfl
    | some ds =>
      by_cases hex : ∀ c ∈ ds, isHexDigit c = true
      · have all : ds.all isHexDigit = true := List.all_eq_true.mpr hex
        simp only [utf8ByteSize_plain (utf8Size_digits hex), all, and_true]
        split
        · rename_i length
          rw [lower_digits hex]
          exact pairs?_plain (utf8Size_digits (hex_lower hex)) (by rw [List.length_map, length])
        · rfl
      · have other : ds.all isHexDigit ≠ true := fun all => hex (List.all_eq_true.mp all)
        simp [other]

theorem canonicalAddress_of_colons {s : String}
    (colons : s.utf8ByteSize = 17 ∧ s.toList.count ':' = 5) : canonicalAddress s = Text.lower s := by
  rw [canonicalAddress, if_pos colons]

/-- A text is lower-cased for its colons, written anew from its digits, or left as it is. -/
theorem canonicalAddress_cases (s : String) :
    (s.utf8ByteSize = 17 ∧ s.toList.count ':' = 5) ∧ canonicalAddress s = Text.lower s ∨
    (∃ ds, bare? s = some ds ∧ ds.length = 12 ∧ (∀ c ∈ ds, isHexDigit c = true) ∧
      canonicalAddress s = String.ofList (joinPairs (ds.map Char.toLower))) ∨
    canonicalAddress s = s := by
  by_cases colons : s.utf8ByteSize = 17 ∧ s.toList.count ':' = 5
  · exact .inl ⟨colons, canonicalAddress_of_colons colons⟩
  · right
    cases found : bare? s with
    | none =>
      right
      rw [canonicalAddress, if_neg colons, found]
    | some ds =>
      by_cases digits : ds.length = 12 ∧ ds.all isHexDigit = true
      · have hex := List.all_eq_true.mp digits.2
        exact .inl ⟨ds, rfl, digits.1, hex, canonicalAddress_of_bare digits.1 hex colons found⟩
      · right
        rw [canonicalAddress, if_neg colons, found]
        exact if_neg digits

/-- The length of a text tells which separator is taken out of it. -/
theorem bare?_eq_some_iff {s : String} {ds : List Char} :
    bare? s = some ds ↔
      (s.utf8ByteSize = 17 ∧ s.toList.count '-' = 5) ∧ without '-' s.toList = ds ∨
      (s.utf8ByteSize = 14 ∧ s.toList.count '.' = 2) ∧ without '.' s.toList = ds ∨
      s.utf8ByteSize = 12 ∧ s.toList = ds := by
  simp only [bare?]
  split
  · rename_i dashes
    simp [dashes]
  · rename_i noDashes
    split
    · rename_i dots
      simp [dots]
    · rename_i noDots
      split
      · rename_i size
        simp [size]
      · rename_i size
        simp [size, noDashes, noDots]

/-- Only dashes and dots are taken out of a text. -/
theorem mem_of_bare? {s : String} {ds : List Char} {c : Char} (bare : bare? s = some ds)
    (member : c ∈ s.toList) (dash : c ≠ '-') (dot : c ≠ '.') : c ∈ ds := by
  have kept (sep : Char) (other : c ≠ sep) : c ∈ without sep s.toList :=
    List.mem_filter.mpr ⟨member, by simpa using other⟩
  rcases bare?_eq_some_iff.mp bare with ⟨-, rfl⟩ | ⟨-, rfl⟩ | ⟨-, rfl⟩
  · exact kept '-' dash
  · exact kept '.' dot
  · exact member

/-- A text with a colon is lower-cased as a whole or left alone. -/
theorem canonicalAddress_of_colon {s : String} (colon : ':' ∈ s.toList) :
    canonicalAddress s = Text.lower s ∨ canonicalAddress s = s := by
  rcases canonicalAddress_cases s with ⟨-, lowered⟩ | ⟨ds, bare, -, hex, -⟩ | same
  · exact .inl lowered
  · have digit := hex ':' (mem_of_bare? bare colon (by decide) (by decide))
    exact absurd digit (by decide)
  · exact .inr same

theorem canonicalAddress_idem (s : String) :
    canonicalAddress (canonicalAddress s) = canonicalAddress s := by
  rcases canonicalAddress_cases s with ⟨⟨-, colons⟩, lowered⟩ | ⟨ds, -, length, hex, written⟩ | same
  · -- the length may have changed, but the colons are all there
    have colon : ':' ∈ (Text.lower s).toList := by
      rw [← List.count_pos_iff, Text.count_lower, colons]
      decide
    rw [lowered]
    rcases canonicalAddress_of_colon colon with again | same
    · rw [again, Text.lower_lower]
    · exact same
  · have lowered : (ds.map Char.toLower).length = 12 := by rw [List.length_map, length]
    have spells : Spells (canonicalAddress s) (ds.map Char.toLower) :=
      ⟨lowered, hex_lower hex, .colons, by rw [written, joinPairs_lower length]⟩
    rw [canonicalAddress_spelled spells, map_toLower_digits hex, written]
  · rw [same, same]

/-- The canonical form of an address is its spelling with colons, in lower case. -/
theorem canonicalAddress_write {s : String} {ds : List Char} (spells : Spells s ds) :
    canonicalAddress s = String.ofList (Style.colons.write (ds.map Char.toLower)) := by
  rw [canonicalAddress_spelled spells, joinPairs_lower spells.length]

/-- Canonical forms of all texts: they can be cut out of the bytes without a miss, and are their own
canonical forms; and of addresses, whatever their style: they are the digits in lower case with
colons, and tell exactly the digits apart, up to case. -/
theorem canonical_form :
    (∀ s, cutAddress? s = some (canonicalAddress s)) ∧
    (∀ s, canonicalAddress (canonicalAddress s) = canonicalAddress s) ∧
    ∀ s t ds es, Spells s ds → Spells t es →
      canonicalAddress s = String.ofList (Style.colons.write (ds.map Char.toLower)) ∧
      (canonicalAddress s = canonicalAddress t ↔
        ds.map Char.toLower = es.map Char.toLower) := by
  refine ⟨cutAddress?_eq, canonicalAddress_idem, ?_⟩
  intro s t ds es spells spells'
  exact ⟨canonicalAddress_write spells, canonicalAddress_eq_iff spells spells'⟩

/-- One address in capitals with dashes and in small letters with dots. -/
theorem dashes_dots_alike :
    Spells "AA-BB-CC-DD-EE-0F" "AABBCCDDEE0F".toList ∧
      Spells "aabb.ccdd.ee0f" "aabbccddee0f".toList ∧
      canonicalAddress "AA-BB-CC-DD-EE-0F" = "aa:bb:cc:dd:ee:0f" ∧
      canonicalAddress "AA-BB-CC-DD-EE-0F" = canonicalAddress "aabb.ccdd.ee0f" := by
  have dashes : Spells "AA-BB-CC-DD-EE-0F" "AABBCCDDEE0F".toList :=
    ⟨by decide, List.all_eq_true.mp (by decide), .dashes, by decide⟩
  have dots : Spells "aabb.ccdd.ee0f" "aabbccddee0f".toList :=
    ⟨by decide, List.all_eq_true.mp (by decide), .dots, by decide⟩
  obtain ⟨colons, alike⟩ := canonical_form.2.2 _ _ _ _ dashes dots
  exact ⟨dashes, dots, colons.trans (by decide), alike.mpr (by decide)⟩

end Device

end Onboarding
