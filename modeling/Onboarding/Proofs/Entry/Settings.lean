import Onboarding.Entry.Basic
import Onboarding.Json.Sameness

/-! What updates make of an entry. An update is laid over the settings that the entry has: what it
gives takes their place, and what it does not give stays. Settings are compared as values, so data
that is only written differently is no change. Updates one after the other are laid over each other
before they are laid over the entry. -/
namespace Onboarding

/-- The part of an entry that an update can change. -/
structure Settings where
  title : String
  data : Data
  options : Data
  uniqueId : Option String

namespace Settings

variable {s t w : Settings}

/-- Texts are equal, data and options are the same as values. -/
structure Same (s t : Settings) : Prop where
  title : s.title = t.title
  data : s.data.same t.data = true
  options : s.options.same t.options = true
  uniqueId : s.uniqueId = t.uniqueId

theorem Same.symm (same : s.Same t) : t.Same s where
  title := same.title.symm
  data := (Data.same_comm _ _).trans same.data
  options := (Data.same_comm _ _).trans same.options
  uniqueId := same.uniqueId.symm

theorem Same.trans (first : s.Same t) (second : t.Same w) : s.Same w where
  title := first.title.trans second.title
  data := Data.same_trans first.data second.data
  options := Data.same_trans first.options second.options
  uniqueId := first.uniqueId.trans second.uniqueId

end Settings

namespace Entry

def settings (e : Entry) : Settings := ⟨e.title, e.data, e.options, e.uniqueId⟩

namespace Update

variable {u : Update} {e : Entry}

/-- The settings that are given, and the old ones where none are. -/
def onto (u : Update) (s : Settings) : Settings where
  title := u.title.getD s.title
  data := u.data.getD s.data
  options := u.options.getD s.options
  uniqueId := u.uniqueId.getD s.uniqueId

theorem onto_onto (u : Update) (s : Settings) : u.onto (u.onto s) = u.onto s := by
  obtain ⟨title, data, options, uniqueId⟩ := u
  cases title <;> cases data <;> cases options <;> cases uniqueId <;> rfl

theorem onto_overlay (first second : Update) (s : Settings) :
    (first.overlay second).onto s = second.onto (first.onto s) := by
  simp only [onto, overlay, Option.getD_or]

theorem same_onto (u : Update) {s t : Settings} (same : s.Same t) : (u.onto s).Same (u.onto t) := by
  have kept (given : Option Data) {a b : Data} (same : a.same b = true) :
      (given.getD a).same (given.getD b) = true := by
    cases given with
    | none => exact same
    | some d => exact d.same_refl
  refine ⟨?_, kept u.data same.data, kept u.options same.options, ?_⟩
  · exact congrArg u.title.getD same.title
  · exact congrArg u.uniqueId.getD same.uniqueId

/-- All that is given is as the entry has it. -/
structure Idle (u : Update) (e : Entry) : Prop where
  title : ∀ title ∈ u.title, title = e.title
  data : ∀ data ∈ u.data, data.same e.data = true
  options : ∀ options ∈ u.options, options.same e.options = true
  uniqueId : ∀ uniqueId ∈ u.uniqueId, uniqueId = e.uniqueId

/-- What holds of the default holds of all that is given exactly if it holds of what counts. -/
theorem forall_mem_iff_getD {α : Type} {P : α → Prop} {old : α} (given : Option α) (here : P old) :
    (∀ new ∈ given, P new) ↔ P (given.getD old) := by
  cases given <;> simp [here]

/-- An update is idle exactly if it leaves the settings the same. -/
theorem idle_iff_onto : u.Idle e ↔ (u.onto e.settings).Same e.settings := by
  have title := forall_mem_iff_getD (P := (· = e.title)) u.title rfl
  have data := forall_mem_iff_getD (P := (·.same e.data = true)) u.data e.data.same_refl
  have options := forall_mem_iff_getD (P := (·.same e.options = true)) u.options
    e.options.same_refl
  have uniqueId := forall_mem_iff_getD (P := (· = e.uniqueId)) u.uniqueId rfl
  constructor
  · rintro ⟨t, d, o, i⟩
    exact ⟨title.mp t, data.mp d, options.mp o, uniqueId.mp i⟩
  · rintro ⟨t, d, o, i⟩
    exact ⟨title.mpr t, data.mpr d, options.mpr o, uniqueId.mpr i⟩

theorem changes_eq_false_iff : u.changes e = false ↔ u.Idle e := by
  simp only [changes, Bool.or_eq_false_iff, Option.any_eq_false, bne_eq_false_iff_eq,
    Bool.not_eq_eq_eq_not, Bool.not_false, Data.same_comm e.data, Data.same_comm e.options]
  constructor
  · rintro ⟨⟨⟨title, data⟩, options⟩, uniqueId⟩
    exact ⟨title, data, options, uniqueId⟩
  · rintro ⟨title, data, options, uniqueId⟩
    exact ⟨⟨⟨title, data⟩, options⟩, uniqueId⟩

end Update

variable (e : Entry) (u : Update) (now : Instant)

theorem Update.same_replaced (old : Data) (new : Option Data) :
    (replaced old new).same (new.getD old) = true := by
  cases new with
  | none => exact old.same_refl
  | some new =>
    unfold replaced
    dsimp only [Option.getD_some]
    split
    · assumption
    · exact new.same_refl

theorem same_settings_apply : (e.apply u now).1.settings.Same (u.onto e.settings) := by
  unfold apply
  split
  · exact ⟨rfl, Update.same_replaced e.data u.data, Update.same_replaced e.options u.options, rfl⟩
  · rename_i idle
    rw [Bool.not_eq_true, Update.changes_eq_false_iff] at idle
    exact (Update.idle_iff_onto.mp idle).symm

theorem apply_snd : (e.apply u now).2 = u.changes e := by
  unfold apply
  split
  · rename_i changes
    exact changes.symm
  · rename_i idle
    exact (Bool.not_eq_true _ ▸ idle).symm

/-- What an update makes of an entry, at whatever time. -/
structure Settles (e : Entry) (u : Update) : Prop where
  idle : ∀ now, (e.apply u now).2 = false ↔ u.Idle e
  unchanged : ∀ now, (e.apply u now).2 = false → (e.apply u now).1 = e
  stamped : ∀ now, (e.apply u now).2 = true → (e.apply u now).1.modifiedAt = now
  settings : ∀ now, (e.apply u now).1.settings.Same (u.onto e.settings)
  /-- Nothing but the settings and the time of the last change is touched. -/
  rest : ∀ now, let new := (e.apply u now).1
    new = { e with
      title := new.title
      data := new.data
      options := new.options
      uniqueId := new.uniqueId
      modifiedAt := new.modifiedAt }
  again : ∀ now later, ((e.apply u now).1.apply u later).2 = false
  /-- A second update is as good as laid over the first one beforehand. -/
  overlay : ∀ (second : Update) (now later once : Instant),
    ((e.apply u now).1.apply second later).1.settings.Same
      (e.apply (u.overlay second) once).1.settings

theorem settles : e.Settles u where
  idle now := by rw [apply_snd, Update.changes_eq_false_iff]
  unchanged now same := by
    rw [apply_snd] at same
    simp [apply, same]
  stamped now changes := by
    rw [apply_snd] at changes
    simp [apply, changes]
  settings := e.same_settings_apply u
  rest now := by
    dsimp only
    unfold apply
    split <;> rfl
  again now later := by
    have settled := e.same_settings_apply u now
    rw [apply_snd, Update.changes_eq_false_iff, Update.idle_iff_onto]
    refine (Update.same_onto u settled).trans ?_
    rw [Update.onto_onto]
    exact settled.symm
  overlay second now later once := by
    refine ((e.apply u now).1.same_settings_apply second later).trans ?_
    refine (Update.same_onto second (e.same_settings_apply u now)).trans ?_
    rw [← Update.onto_overlay]
    exact (e.same_settings_apply _ once).symm

end Entry

end Onboarding
