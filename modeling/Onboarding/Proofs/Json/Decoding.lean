import Onboarding.Json.Decoder
import Onboarding.Proofs.Json.Writing

/-! Reading typed data off a written value. A record is read field by field from the object that
it was written as, whatever order the fields have. -/
namespace Onboarding.Decoder

/-- An object whose fields all have names, of which those that are known come once, is sorted into
its parts. -/
theorem Parts.gather_once {names : List String} {fields : List (Option String × Tree)}
    (parts : Parts) (named : ∀ f ∈ fields, f.1 ≠ none)
    (once : fields.Pairwise fun f g => ∀ name ∈ names, f.1 = some name → g.1 ≠ some name)
    (fresh : ∀ name ∈ names, ∀ t, (some name, t) ∈ fields → name ∉ parts) :
    ∃ gathered, Parts.gather names fields parts = some gathered ∧ ∀ name t,
      gathered[name]? = some t ↔ parts[name]? = some t ∨ name ∈ names ∧ (some name, t) ∈ fields := by
  induction fields generalizing parts with
  | nil => exact ⟨parts, rfl, fun name t => by simp⟩
  | cons f fields ih =>
    obtain ⟨name?, t⟩ := f
    obtain ⟨name, rfl⟩ := Option.ne_none_iff_exists'.mp (named (name?, t) (by simp))
    obtain ⟨first, once⟩ := List.pairwise_cons.mp once
    have namedAfter : ∀ g ∈ fields, g.1 ≠ none := fun g member => named g (by simp [member])
    by_cases known : name ∈ names
    · have new : name ∉ parts := fresh name known t (by simp)
      have freshAfter : ∀ other ∈ names, ∀ u, (some other, u) ∈ fields →
          other ∉ parts.insert name t := by
        intro other otherKnown u member present
        rcases Std.ExtTreeMap.mem_insert.mp present with same | before
        · have again : name = other := Std.LawfulEqCmp.eq_of_compare same
          subst again
          exact first _ member name known rfl rfl
        · exact fresh other otherKnown u (by simp [member]) before
      obtain ⟨gathered, gathers, parted⟩ := ih (parts.insert name t) namedAfter once freshAfter
      refine ⟨gathered, by simpa [Parts.gather, known, new] using gathers, fun other u => ?_⟩
      rw [parted, Std.ExtTreeMap.getElem?_insert]
      by_cases here : name = other
      · subst here
        have absent : parts[name]? = none := Std.ExtTreeMap.getElem?_eq_none new
        have alone : (some name, u) ∉ fields := fun member => first _ member name known rfl rfl
        simp [absent, alone, known, eq_comm]
      · simp [here, Ne.symm here]
    · have freshAfter : ∀ other ∈ names, ∀ u, (some other, u) ∈ fields → other ∉ parts :=
        fun other otherKnown u member => fresh other otherKnown u (by simp [member])
      obtain ⟨gathered, gathers, parted⟩ := ih parts namedAfter once freshAfter
      refine ⟨gathered, by simpa [Parts.gather, known] using gathers, fun other u => ?_⟩
      rw [parted]
      have apart : other ∈ names → other ≠ name := fun otherKnown same => known (same ▸ otherKnown)
      constructor
      · rintro (before | ⟨otherKnown, member⟩)
        · exact .inl before
        · exact .inr ⟨otherKnown, by simp [member]⟩
      · rintro (before | ⟨otherKnown, member⟩)
        · exact .inl before
        · exact .inr ⟨otherKnown, by simpa [apart otherKnown] using member⟩

theorem lookup_eq_some_iff_mem {α : Type} {fields : List (String × α)}
    (once : (fields.map (·.1)).Nodup) {name : String} {x : α} :
    fields.lookup name = some x ↔ (name, x) ∈ fields := by
  induction fields with
  | nil => simp
  | cons f fields ih =>
    obtain ⟨apart, once⟩ := List.nodup_cons.mp once
    rw [List.lookup_cons]
    by_cases same : name = f.1
    · subst same
      have alone : (f.1, x) ∉ fields := fun member =>
        apart (List.mem_map.mpr ⟨(f.1, x), member, rfl⟩)
      simp [alone, Prod.ext_iff, eq_comm]
    · have other : (name == f.1) = false := beq_false_of_ne same
      simp [other, ih once, Prod.ext_iff, same]

/-- The parts that are read of a written object with known names. -/
theorem parts_reread {names : List String} {fields : List (String × Value)}
    (known : (fields.map (·.1)).Sublist names) (once : names.Nodup) (least room : Nat) :
    ∃ gathered, parts names least (room + 1) (Value.object fields).reread = some (room, gathered) ∧
      ∀ name, gathered[name]? = (fields.lookup name).map Value.reread := by
  have apart : (fields.map (·.1)).Nodup := known.nodup once
  have apartAfter : (fields.map fun f => (some f.1, f.2.reread)).Pairwise fun f g =>
      ∀ name ∈ names, f.1 = some name → g.1 ≠ some name := by
    rw [List.pairwise_map]
    refine (List.pairwise_map.mp apart).imp fun {f g} other name _ here there => ?_
    exact other (Option.some.inj (here.trans there.symm))
  have named : ∀ f ∈ fields.map fun f => (some f.1, f.2.reread), f.1 ≠ none := by
    intro f member
    obtain ⟨g, _, rfl⟩ := List.mem_map.mp member
    simp
  obtain ⟨gathered, gathers, parted⟩ := Parts.gather_once ∅ named apartAfter (by simp)
  rw [← Value.rereadFields_eq] at gathers
  refine ⟨gathered, by simp [Value.reread, parts, enter, gathers], fun name => ?_⟩
  ext t
  rw [parted, Option.map_eq_some_iff]
  constructor
  · rintro (before | ⟨_, member⟩)
    · simp at before
    · obtain ⟨f, written, same⟩ := List.mem_map.mp member
      cases same
      exact ⟨f.2, (lookup_eq_some_iff_mem apart).mpr written, rfl⟩
  · rintro ⟨v, found, rfl⟩
    have written := (lookup_eq_some_iff_mem apart).mp found
    have listed : name ∈ names := known.subset (List.mem_map.mpr ⟨(name, v), written, rfl⟩)
    exact .inr ⟨listed, List.mem_map.mpr ⟨(name, v), written, rfl⟩⟩

/-! The fields of a record that was read so. -/

section
variable {α : Type} {p : Parts} {fields : List (String × Value)}
  (looked : ∀ name, p[name]? = (fields.lookup name).map Value.reread) {name : String} {v : Value}
  (room : Nat) (d : Decoder α)

include looked

theorem Parts.field_reread (written : fields.lookup name = some v) :
    p.field room name d = d room v.reread := by
  rw [Parts.field, looked, written, Option.map_some, Option.bind_some]

theorem Parts.fieldD_reread (written : fields.lookup name = some v) (missing : α) :
    p.fieldD room name d missing = d room v.reread := by
  rw [Parts.fieldD, looked, written, Option.map_some]

theorem Parts.fieldD_missing (left : fields.lookup name = none) (missing : α) :
    p.fieldD room name d missing = some missing := by
  rw [Parts.fieldD, looked, left, Option.map_none]

end

theorem word_ofNat (room : Nat) (n : UInt32) :
    word room (.ofValue (.ofNat n.toNat)) = some n := by
  have size : n.toNat < 4294967296 := n.toNat_lt_size
  simp only [Value.ofNat, Tree.ofValue, word, UInt32.size]
  rw [if_pos (by omega), Int.toNat_natCast, UInt32.ofNat_toNat]

/-- A number of a word is written without loss. -/
theorem reread_ofNat (n : UInt32) :
    (Value.ofNat n.toNat).reread = .ofValue (.ofNat n.toNat) := by
  have size : n.toNat < 4294967296 := n.toNat_lt_size
  have low : -(Lexeme.negativeMax : Int) ≤ n.toNat := by omega
  have high : (n.toNat : Int) ≤ Lexeme.wordMax := by
    simp only [Lexeme.wordMax]
    omega
  simp only [Value.ofNat, Value.reread, Number.reread_integer low high, Tree.ofValue]

theorem word_reread (room : Nat) (n : UInt32) :
    word room (Value.ofNat n.toNat).reread = some n := by
  rw [reread_ofNat, word_ofNat]

theorem text_reread (room : Nat) (s : String) :
    text room (Value.text s).reread = some s := rfl

/-- Things that were written one by one are read one by one. -/
theorem mapM_map {α β γ : Type} {write : α → β} {read : β → Option γ} {back : α → γ} {as : List α}
    (each : ∀ a ∈ as, read (write a) = some (back a)) :
    (as.map write).mapM read = some (as.map back) := by
  induction as with
  | nil => rfl
  | cons a as ih =>
    obtain ⟨first, others⟩ := List.forall_mem_cons.mp each
    rw [List.map_cons, List.mapM_cons, first, ih others]
    rfl

theorem forall_of_mapM {α β : Type} {f : α → Option β} {P : β → Prop}
    (each : ∀ a b, f a = some b → P b) {as : List α} {bs : List β} (made : as.mapM f = some bs) :
    ∀ b ∈ bs, P b := by
  induction as generalizing bs with
  | nil =>
    cases made
    exact fun b member => absurd member List.not_mem_nil
  | cons a as ih =>
    rw [List.mapM_cons] at made
    obtain ⟨first, makesFirst, made⟩ := Option.bind_eq_some_iff.mp made
    obtain ⟨others, makesOthers, made⟩ := Option.bind_eq_some_iff.mp made
    cases made
    exact List.forall_mem_cons.mpr ⟨each a first makesFirst, ih makesOthers⟩

/-- What holds of each thing that is read holds of a whole list. -/
theorem forall_of_items {α : Type} {d : Decoder α} {P : α → Prop}
    (each : ∀ room t a, d room t = some a → P a) {room : Nat} {t : Tree} {read : List α}
    (reads : items d room t = some read) : ∀ a ∈ read, P a := by
  cases t with
  | list ts =>
    obtain ⟨room, _, reads⟩ := Option.bind_eq_some_iff.mp reads
    exact forall_of_mapM (each room) reads
  | _ => cases reads

end Onboarding.Decoder
