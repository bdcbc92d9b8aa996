import Onboarding.Proofs.Registry.Reading
import Onboarding.Registry.Basic

/-! Files of other versions. The version of a file is compared after all of it has been read, its
content included. So a file of another version is told apart exactly if its content can be read as
it is laid out today, and otherwise counts as a text that cannot be read. The registry is left alone
either way. -/
namespace Onboarding

/-- Content that is kept in an envelope: the version of its layout, and how it is read. -/
structure Layout (α : Type) where
  version : UInt32
  content : Decoder α

namespace Layout

variable {α : Type}

def names : List String := ["version", "minor_version", "key", "data"]

def envelope (l : Layout α) : Decoder (UInt32 × α) := fun room t => do
  let (room, p) ← Decoder.parts names 4 room t
  let found ← p.field room "version" .word
  let _ ← p.field room "minor_version" .word
  let _ ← p.field room "key" .text
  let content ← p.field room "data" l.content
  return (found, content)

/-- The content that a text keeps. -/
def read (l : Layout α) (s : String) : Except StorageError α :=
  match Decoder.ofText? l.envelope s with
  | none => .error .json
  | some (found, content) =>
    if found = l.version then .ok content else .error (.version l.version found)

/-- The levels that an envelope leaves for its content. -/
def room : Nat := 126

/-- The content can be read as it is laid out today. -/
def Reads (l : Layout α) (content : Tree) : Prop := ∃ a, l.content room content = some a

end Layout

/-- The layout of the entries of a registry. -/
def Disk.layout (now : Instant) : Layout (List Entry) where
  version := version
  content room t := do
    let (room, p) ← Decoder.parts ["entries"] 1 room t
    p.field room "entries" (.items (Entry.decoder now))

theorem Disk.envelope_eq (now : Instant) : envelope now = (layout now).envelope := rfl

theorem Disk.read_eq (now : Instant) (s : String) : read now s = (layout now).read s := by
  rw [read, envelope_eq, Layout.read]
  cases Decoder.ofText? (layout now).envelope s <;> rfl

/-- A document around some content: an object with a version, a minor version, a key and the
content, each once, in any order and among fields of other names, or these four as a list. -/
inductive Envelope (found : UInt32) (content : Tree) : Tree → Prop where
  | object {fields : List (Option String × Tree)} (minor : UInt32) (key : String)
    (named : ∀ f ∈ fields, f.1 ≠ none)
    (once : fields.Pairwise fun f g => ∀ name ∈ Layout.names, f.1 = some name → g.1 ≠ some name)
    (version : (some "version", .ofValue (.ofNat found.toNat)) ∈ fields)
    (minorVersion : (some "minor_version", .ofValue (.ofNat minor.toNat)) ∈ fields)
    (keyed : (some "key", .ofValue (.text key)) ∈ fields)
    (data : (some "data", content) ∈ fields) : Envelope found content (.object fields)
  | list (minor : UInt32) (key : String) :
    Envelope found content (.list [.ofValue (.ofNat found.toNat), .ofValue (.ofNat minor.toNat),
      .ofValue (.text key), content])

namespace Envelope

variable {found : UInt32} {content t : Tree}

theorem parts (envelope : Envelope found content t) (room : Nat) :
    ∃ p minor key, Decoder.parts Layout.names 4 (room + 1) t = some (room, p) ∧
      p["version"]? = some (.ofValue (.ofNat found.toNat)) ∧
      p["minor_version"]? = some (.ofValue (.ofNat (UInt32.toNat minor))) ∧
      p["key"]? = some (.ofValue (.text key)) ∧ p["data"]? = some content := by
  cases envelope with
  | @object fields minor key named once version minorVersion keyed data =>
    obtain ⟨p, gathers, parted⟩ := Decoder.Parts.gather_once ∅ named once (by simp)
    have looked (name : String) (known : name ∈ Layout.names) (u : Tree)
        (member : (some name, u) ∈ fields) : p[name]? = some u :=
      (parted name u).mpr (.inr ⟨known, member⟩)
    refine ⟨p, minor, key, ?_, looked _ (by decide) _ version, looked _ (by decide) _ minorVersion,
      looked _ (by decide) _ keyed, looked _ (by decide) _ data⟩
    simp [Decoder.parts, Decoder.enter, gathers]
  | list minor key =>
    refine ⟨_, minor, key, rfl, ?_⟩
    simp [Decoder.lastWins, Layout.names, Std.ExtTreeMap.getElem_insert]

end Envelope

theorem Layout.envelope_at {α : Type} (l : Layout α) {found : UInt32} {content t : Tree}
    (envelope : Envelope found content t) (room : Nat) :
    l.envelope (room + 1) t = (l.content room content).map fun a => (found, a) := by
  obtain ⟨p, minor, key, reads, version, minorVersion, keyed, data⟩ := envelope.parts room
  have version : p.field room "version" .word = some found := by
    rw [Decoder.Parts.field, version, Option.bind_some, Decoder.word_ofNat]
  have minorVersion : p.field room "minor_version" .word = some minor := by
    rw [Decoder.Parts.field, minorVersion, Option.bind_some, Decoder.word_ofNat]
  have keyed : p.field room "key" .text = some key := by
    rw [Decoder.Parts.field, keyed, Option.bind_some]
    rfl
  have data : p.field room "data" l.content = l.content room content := by
    rw [Decoder.Parts.field, data, Option.bind_some]
  simp only [Layout.envelope, reads, version, minorVersion, keyed, data, Option.bind_eq_bind,
    Option.bind_some]
  cases l.content room content <;> rfl

namespace Layout

variable {α : Type} (l : Layout α) {s : String} {found : UInt32} {content t : Tree}

theorem not_reads : ¬ l.Reads content ↔ l.content room content = none := by
  rw [Reads, ← Option.isSome_iff_exists, Option.not_isSome_iff_eq_none]

/-- What is made of an envelope depends on its content first, and then on its version. -/
theorem read_envelope (text : Tree.ofText? s = some t) (envelope : Envelope found content t) :
    l.read s = match l.content room content with
      | none => .error .json
      | some a => if found = l.version then .ok a else .error (.version l.version found) := by
  have reads : l.envelope Decoder.levels t = (l.content room content).map fun a => (found, a) :=
    l.envelope_at envelope room
  rw [read, Decoder.ofText?, text, Option.bind_some, reads]
  cases l.content room content <;> rfl

/-- Another version is told apart exactly in content that can be read. -/
theorem read_other (text : Tree.ofText? s = some t) (envelope : Envelope found content t)
    (other : found ≠ l.version) :
    (l.read s = .error (.version l.version found) ↔ l.Reads content) ∧
      (l.read s = .error .json ↔ ¬ l.Reads content) := by
  rw [l.read_envelope text envelope, not_reads, Reads]
  cases l.content room content with
  | none => simp
  | some a => simp [other]

end Layout

theorem Registry.load_error {r : Registry} {now : Instant} {e : StorageError}
    (fails : r.disk.load now = .error e) : r.load now = (r, .error e) := by
  rw [load, fails]

/-- A file of another version, whatever its content and whatever layout it is read by. -/
theorem version_gate {s : String} {found : UInt32} {content t : Tree}
    (text : Tree.ofText? s = some t) (envelope : Envelope found content t) :
    (∀ (α : Type) (l : Layout α), found ≠ l.version →
      (l.read s = .error (.version l.version found) ↔ l.Reads content) ∧
      (l.read s = .error .json ↔ ¬ l.Reads content)) ∧
    ∀ (r : Registry) (now : Instant), r.disk.file = some (.text s) → found ≠ Disk.version →
      (r.load now).1 = r ∧
      ((r.load now).2 = .error (.version Disk.version found) ↔
        (Disk.layout now).Reads content) ∧
      ((r.load now).2 = .error .json ↔ ¬ (Disk.layout now).Reads content) := by
  constructor
  · intro α l other
    exact l.read_other text envelope other
  · intro r now file other
    have told := (Disk.layout now).read_other text envelope other
    have version : (Disk.layout now).read s = .error (.version Disk.version found) ↔
        (Disk.layout now).Reads content := told.1
    have json := told.2
    have loads : r.disk.load now = (Disk.layout now).read s := by
      rw [Disk.load, file]
      exact Disk.read_eq now s
    by_cases reads : (Disk.layout now).Reads content
    · rw [Registry.load_error (loads.trans (version.mpr reads))]
      exact ⟨rfl, by simp [reads]⟩
    · rw [Registry.load_error (loads.trans (json.mpr reads))]
      exact ⟨rfl, by simp [reads]⟩

/-- A document of some version, as a registry of that version would write it. -/
def Disk.written (version : UInt32) (content : Value) : Value :=
  .object [("version", .ofNat version.toNat), ("minor_version", .ofNat minorVersion.toNat),
    ("key", .text key), ("data", content)]

theorem Disk.envelope_written (version : UInt32) (content : Value) :
    Envelope version content.reread (written version content).reread := by
  have fields : (written version content).reread = .object
      [(some "version", .ofValue (.ofNat version.toNat)),
        (some "minor_version", .ofValue (.ofNat minorVersion.toNat)),
        (some "key", .ofValue (.text key)), (some "data", content.reread)] := by
    simp only [written, Value.reread, Value.rereadFields, Decoder.reread_ofNat, Tree.ofValue]
  rw [fields]
  exact .object minorVersion key (by simp) (by simp [Layout.names]) (by simp) (by simp) (by simp)
    (by simp)

/-- A later version that keeps its entries as they are kept today, and has none. -/
def Disk.noEntries : Value := .object [("entries", .list [])]

theorem Disk.reads_noEntries (now : Instant) : (layout now).Reads noEntries.reread := by
  refine ⟨[], ?_⟩
  simp [layout, noEntries, Layout.room, Value.reread, Value.rereadFields, Value.rereadItems,
    Decoder.parts, Decoder.enter, Decoder.Parts.gather, Decoder.Parts.field, Decoder.items]

/-- A disk with a file of that version. -/
def Disk.later : Disk := { file := some (.text (written 2 noEntries).pretty) }

theorem noEntries_told :
    Tree.ofText? (Disk.written 2 Disk.noEntries).pretty =
        some (Disk.written 2 Disk.noEntries).reread ∧
      Envelope 2 Disk.noEntries.reread (Disk.written 2 Disk.noEntries).reread ∧
      2 ≠ Disk.version ∧ ((Registry.onDisk .later ∅).load .epoch).1 = Registry.onDisk .later ∅ ∧
      ((Registry.onDisk .later ∅).load .epoch).2 = .error (.version Disk.version 2) := by
  have text := Value.ofText?_pretty (Disk.written 2 Disk.noEntries)
  have envelope := Disk.envelope_written 2 Disk.noEntries
  obtain ⟨same, told, _⟩ :=
    (version_gate text envelope).2 (Registry.onDisk .later ∅) .epoch rfl (by decide)
  exact ⟨text, envelope, by decide, same, told.mpr (Disk.reads_noEntries .epoch)⟩

/-- A later version that keeps rows in the place of entries. -/
def Disk.rows : Value := .object [("rows", .list [])]

theorem Disk.not_reads_rows (now : Instant) : ¬ (layout now).Reads rows.reread := by
  rw [Layout.not_reads]
  simp [layout, rows, Layout.room, Value.reread, Value.rereadFields, Decoder.parts, Decoder.enter,
    Decoder.Parts.gather, Decoder.Parts.field]

/-- A file with rows is taken for one that cannot be read, not for one of a later version. -/
theorem rows_garbled :
    ¬ ∀ (s : String) (found : UInt32) (content t : Tree), Tree.ofText? s = some t →
      Envelope found content t → found ≠ Disk.version →
        Disk.read .epoch s = .error (.version Disk.version found) := by
  intro told
  have text := Value.ofText?_pretty (Disk.written 2 Disk.rows)
  have envelope := Disk.envelope_written 2 Disk.rows
  have version := told _ _ _ _ text envelope (by decide)
  have json := ((Disk.layout .epoch).read_other text envelope (by decide)).2.mpr
    (Disk.not_reads_rows .epoch)
  rw [Disk.read_eq, json] at version
  cases version

end Onboarding
