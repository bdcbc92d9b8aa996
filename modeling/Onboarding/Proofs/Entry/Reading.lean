import Onboarding.Entry.Codec
import Onboarding.Proofs.Json.Decoding

/-! Written entries read back. Whatever becomes of its data and its times, a written entry reads
back under its own id, domain and unique id; its phase is gone. -/
namespace Onboarding

theorem Instant.epoch_reread : Instant.ofText? Instant.epoch.text = some .epoch := by
  decide +kernel

namespace Entry

theorem names_fields (e : Entry) : (e.fields.map (·.1)).Sublist fieldNames := by
  cases unique : e.uniqueId <;> cases disabled : e.disabledBy <;>
    simp [fields, fieldNames, optionalField, unique, disabled]

theorem once_fieldNames : fieldNames.Nodup := by decide

theorem lookup_fields (e : Entry) :
    e.fields.lookup "entry_id" = some (.text e.id) ∧
    e.fields.lookup "domain" = some (.text e.domain) ∧
    e.fields.lookup "title" = some (.text e.title) ∧
    e.fields.lookup "data" = some e.data.toValue ∧
    e.fields.lookup "options" = some e.options.toValue ∧
    e.fields.lookup "version" = some (.ofNat e.version.toNat) ∧
    e.fields.lookup "minor_version" = some (.ofNat e.minorVersion.toNat) ∧
    e.fields.lookup "unique_id" = e.uniqueId.map .text ∧
    e.fields.lookup "source" = some (.text e.source.key) ∧
    e.fields.lookup "disabled_by" = e.disabledBy.map (fun d => .text d.key) ∧
    e.fields.lookup "created_at" = some (.text e.createdAt.text) ∧
    e.fields.lookup "modified_at" = some (.text e.modifiedAt.text) := by
  cases unique : e.uniqueId <;> cases disabled : e.disabledBy <;>
    simp [fields, optionalField, unique, disabled, List.lookup_cons]

/-- What an entry is read back as with a given number of levels left for its parts. -/
def reread (room : Nat) (e : Entry) : Option Entry := do
  let data ← Decoder.data room e.data.toValue.reread
  let options ← Decoder.data room e.options.toValue.reread
  let createdAt ← Instant.ofText? e.createdAt.text
  let modifiedAt ← Instant.ofText? e.modifiedAt.text
  return { e with data, options, createdAt, modifiedAt, phase := .notLoaded, reason := none }

theorem source_reread (room : Nat) (s : Source) :
    Decoder.choice Source.ofKey? room (Value.text s.key).reread = some s := by
  cases s <;> rfl

theorem disabler_reread (room : Nat) (d : Disabler) :
    (Decoder.choice Disabler.ofKey?).optional room (Value.text d.key).reread = some (some d) := by
  cases d
  rfl

theorem instant_reread (room : Nat) (i : Instant) :
    instant room (Value.text i.text).reread = Instant.ofText? i.text := by
  rw [instant, Decoder.text_reread, Option.bind_some]

theorem decoder_reread (now : Instant) (room : Nat) (e : Entry) :
    decoder now (room + 1) e.toValue.reread = e.reread room := by
  obtain ⟨gathered, read, looked⟩ := Decoder.parts_reread e.names_fields once_fieldNames 3 room
  obtain ⟨id, domain, title, data, options, version, minorVersion, uniqueId, source, disabledBy,
    createdAt, modifiedAt⟩ := e.lookup_fields
  have read_uniqueId : gathered.fieldD room "unique_id" Decoder.text.optional none =
      some e.uniqueId := by
    cases unique : e.uniqueId with
    | none =>
      rw [unique] at uniqueId
      exact Decoder.Parts.fieldD_missing looked room _ uniqueId none
    | some s =>
      rw [unique] at uniqueId
      exact Decoder.Parts.fieldD_reread looked room _ uniqueId none
  have read_disabledBy : gathered.fieldD room "disabled_by"
      (Decoder.choice Disabler.ofKey?).optional none = some e.disabledBy := by
    cases disabled : e.disabledBy with
    | none =>
      rw [disabled] at disabledBy
      exact Decoder.Parts.fieldD_missing looked room _ disabledBy none
    | some d =>
      rw [disabled] at disabledBy
      rw [Decoder.Parts.fieldD_reread looked room _ disabledBy, disabler_reread]
  change (Decoder.parts fieldNames 3 (room + 1) (Value.object e.fields).reread).bind _ = _
  rw [read, Option.bind_some]
  dsimp only [Option.bind_eq_bind]
  rw [Decoder.Parts.field_reread looked room _ id, Decoder.text_reread, Option.bind_some,
    Decoder.Parts.field_reread looked room _ domain, Decoder.text_reread, Option.bind_some,
    Decoder.Parts.field_reread looked room _ title, Decoder.text_reread, Option.bind_some,
    Decoder.Parts.fieldD_reread looked room _ data,
    Decoder.Parts.fieldD_reread looked room _ options]
  -- data may be read back as other data, so what follows is compared whatever it is
  refine congrArg (Option.bind _) (funext fun data => ?_)
  refine congrArg (Option.bind _) (funext fun options => ?_)
  rw [Decoder.Parts.fieldD_reread looked room _ version, Decoder.word_reread, Option.bind_some,
    Decoder.Parts.fieldD_reread looked room _ minorVersion, Decoder.word_reread, Option.bind_some,
    read_uniqueId, Option.bind_some,
    Decoder.Parts.fieldD_reread looked room _ source, source_reread, Option.bind_some,
    read_disabledBy, Option.bind_some,
    Decoder.Parts.fieldD_reread looked room _ createdAt, instant_reread,
    Decoder.Parts.fieldD_reread looked room _ modifiedAt, instant_reread]
  rfl

/-- The written data and times of the entry stand for themselves, with a given number of levels
left for the data. -/
structure ReadsBack (room : Nat) (e : Entry) : Prop where
  data : Decoder.data room e.data.toValue.reread = some e.data
  options : Decoder.data room e.options.toValue.reread = some e.options
  createdAt : Instant.ofText? e.createdAt.text = some e.createdAt
  modifiedAt : Instant.ofText? e.modifiedAt.text = some e.modifiedAt

theorem ReadsBack.reread {room : Nat} {e : Entry} (back : e.ReadsBack room) :
    e.reread room = some e.persisted := by
  simp [Entry.reread, back.data, back.options, back.createdAt, back.modifiedAt, persisted]

/-- An entry that is read back is still the same entry to its registry. -/
theorem reread_same {room : Nat} {e back : Entry} (read : e.reread room = some back) :
    back.id = e.id ∧ back.domain = e.domain ∧ back.uniqueId = e.uniqueId := by
  simp only [reread, Option.bind_eq_bind, Option.bind_eq_some_iff] at read
  obtain ⟨data, _, options, _, createdAt, _, modifiedAt, _, made⟩ := read
  cases made
  exact ⟨rfl, rfl, rfl⟩

end Entry

end Onboarding
