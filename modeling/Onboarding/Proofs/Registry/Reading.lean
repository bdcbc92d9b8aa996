import Onboarding.Registry.Disk
import Onboarding.Proofs.Entry.Reading

/-! The file read back. A fresh reader of a written file finds the entries that were written, in
the same order and under the same ids, domains and unique ids; it fails as a whole if the data or
the times of one of them cannot be read. -/
namespace Onboarding.Disk

/-- The levels that the file leaves for the parts of an entry. -/
def room : Nat := 123

theorem items_reread (now : Instant) (entries : List Entry) :
    Decoder.items (Entry.decoder now) (room + 2)
      (Value.list (entries.map Entry.toValue)).reread = entries.mapM (Entry.reread room) := by
  have each : Entry.decoder now (room + 1) ∘ Value.reread ∘ Entry.toValue = Entry.reread room :=
    funext fun e => Entry.decoder_reread now room e
  rw [Value.reread, Value.rereadItems_eq, List.map_map, Decoder.items]
  simp [Decoder.enter, each]

theorem envelope_reread (now : Instant) (entries : List Entry) :
    envelope now Decoder.levels (document entries).reread =
      (entries.mapM (Entry.reread room)).map fun entries => (version, entries) := by
  let content : List (String × Value) := [("entries", .list (entries.map Entry.toValue))]
  have outerNames : ((fields content).map (·.1)).Sublist
      ["version", "minor_version", "key", "data"] := List.Sublist.refl _
  have innerNames : (content.map (·.1)).Sublist ["entries"] := List.Sublist.refl _
  obtain ⟨outer, readsOuter, outerLookup⟩ := Decoder.parts_reread outerNames (by decide) 4 126
  obtain ⟨inner, readsInner, innerLookup⟩ := Decoder.parts_reread innerNames (by decide) 1 125
  have versionAt : (fields content).lookup "version" = some (.ofNat version.toNat) := rfl
  have minorAt : (fields content).lookup "minor_version" = some (.ofNat minorVersion.toNat) := rfl
  have keyAt : (fields content).lookup "key" = some (.text key) := rfl
  have dataAt : (fields content).lookup "data" = some (.object content) := rfl
  have entriesAt : content.lookup "entries" = some (.list (entries.map Entry.toValue)) := rfl
  have wrapped : document entries = .object (fields content) := rfl
  have items : (Entry.decoder now).items 125 (Value.list (entries.map Entry.toValue)).reread =
      entries.mapM (Entry.reread room) := items_reread now entries
  simp only [envelope, wrapped, Decoder.levels, readsOuter, Decoder.Parts.field, outerLookup,
    versionAt, minorAt, keyAt, dataAt, Option.map_some, Option.bind_some, Option.bind_eq_bind,
    Decoder.word_reread, Decoder.text_reread, readsInner, innerLookup, entriesAt, items]
  cases entries.mapM (Entry.reread room) <;> rfl

theorem read_document (now : Instant) (entries : List Entry) :
    read now (document entries).pretty =
      match entries.mapM (Entry.reread room) with
      | some entries => .ok entries
      | none => .error .json := by
  rw [read, Decoder.ofText?, Value.ofText?_pretty, Option.bind_some, envelope_reread]
  cases entries.mapM (Entry.reread room) <;> simp

/-- The file as it is after a save of the entries. -/
def holding (entries : List Entry) : Content := .text (document entries).pretty

theorem load_holding {d : Disk} {entries : List Entry} (file : d.file = some (holding entries))
    (now : Instant) :
    d.load now = match entries.mapM (Entry.reread room) with
      | some entries => .ok entries
      | none => .error .json := by
  rw [load, file, holding, ← read_document]

theorem mapM_readsBack {entries : List Entry} (back : ∀ e ∈ entries, e.ReadsBack room) :
    entries.mapM (Entry.reread room) = some (entries.map Entry.persisted) := by
  induction entries with
  | nil => rfl
  | cons e entries ih =>
    have first := (back e (by simp)).reread
    have others := ih fun e member => back e (by simp [member])
    simp [first, others]

/-- Entries whose data and times read back are read as they were kept. -/
theorem load_readsBack {d : Disk} {entries : List Entry} (file : d.file = some (holding entries))
    (back : ∀ e ∈ entries, e.ReadsBack room) (now : Instant) :
    d.load now = .ok (entries.map Entry.persisted) := by
  rw [load_holding file, mapM_readsBack back]

end Onboarding.Disk
