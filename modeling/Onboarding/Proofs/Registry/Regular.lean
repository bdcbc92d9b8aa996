import Onboarding.Proofs.Registry.Standstill

/-! Regular entries: there is a reason exactly if the entry failed, and a disabled entry is not in
use. What is done to a registry but for setups and unloads leaves every entry where it is in its
lifecycle, or puts an unloaded one in its place. -/
namespace Onboarding

/-- An entry as it is before anything was done to load it. -/
def Entry.Unloaded (e : Entry) : Prop := e.phase = .notLoaded ∧ e.reason = none

/-- There is a reason exactly if the entry failed, and a disabled entry is not in use. -/
structure Entry.Regular (e : Entry) : Prop where
  reason : e.reason ≠ none ↔ e.phase = .setupError
  disabled : e.disabledBy ≠ none →
    e.phase ≠ .setupInProgress ∧ e.phase ≠ .loaded ∧ e.phase ≠ .setupError

/-- The two entries are at the same point of their lifecycle, for the same integration. -/
structure Entry.Alongside (e f : Entry) : Prop where
  phase : f.phase = e.phase
  reason : f.reason = e.reason
  domain : f.domain = e.domain
  disabledBy : f.disabledBy = e.disabledBy

namespace Entry

theorem Unloaded.regular {e : Entry} (unloaded : e.Unloaded) : e.Regular := by
  obtain ⟨phase, reason⟩ := unloaded
  constructor <;> simp [phase, reason]

theorem Alongside.regular {e f : Entry} (same : e.Alongside f) (regular : e.Regular) :
    f.Regular := by
  obtain ⟨phase, reason, domain, disabledBy⟩ := same
  constructor
  · rw [phase, reason]
    exact regular.reason
  · rw [phase, disabledBy]
    exact regular.disabled

theorem Alongside.refl (e : Entry) : e.Alongside e := ⟨rfl, rfl, rfl, rfl⟩

theorem alongside_apply (e : Entry) (u : Update) (now : Instant) :
    e.Alongside (e.apply u now).1 := by
  unfold apply
  split <;> exact ⟨rfl, rfl, rfl, rfl⟩

theorem Regular.enabled {e : Entry} (regular : e.Regular)
    (inSetup : e.phase = .setupInProgress) : e.disabledBy = none := by
  by_contra disabled
  exact (regular.disabled disabled).1 inSetup

theorem decoder_unloaded {now : Instant} {room : Nat} {t : Tree} {e : Entry}
    (read : decoder now room t = some e) : e.Unloaded := by
  unfold decoder at read
  -- the fields are read one after the other, and these two are not among them
  iterate 13 obtain ⟨_, _, read⟩ := Option.bind_eq_some_iff.mp read
  cases read
  exact ⟨rfl, rfl⟩

end Entry

/-- Whatever a file holds, the entries that are read from it are unloaded. -/
theorem Disk.load_unloaded {d : Disk} {now : Instant} {entries : List Entry}
    (loads : d.load now = .ok entries) : ∀ e ∈ entries, e.Unloaded := by
  unfold load at loads
  split at loads
  · cases loads
    exact fun e member => absurd member List.not_mem_nil
  · cases loads
  rename_i s _
  unfold read at loads
  split at loads
  · cases loads
  rename_i found entries' reads
  split at loads
  · cases loads
    obtain ⟨t, -, reads⟩ := Option.bind_eq_some_iff.mp reads
    obtain ⟨⟨room, p⟩, -, reads⟩ := Option.bind_eq_some_iff.mp reads
    iterate 3 obtain ⟨_, -, reads⟩ := Option.bind_eq_some_iff.mp reads
    obtain ⟨entries, readEntries, reads⟩ := Option.bind_eq_some_iff.mp reads
    cases reads
    obtain ⟨t, -, readEntries⟩ := Option.bind_eq_some_iff.mp readEntries
    obtain ⟨⟨room, p⟩, -, readEntries⟩ := Option.bind_eq_some_iff.mp readEntries
    obtain ⟨t, -, readEntries⟩ := Option.bind_eq_some_iff.mp readEntries
    exact Decoder.forall_of_items (fun _ _ _ => Entry.decoder_unloaded) readEntries
  · cases loads

namespace Catalog

/-- All entries are regular, and filed under their ids. -/
structure Regular (c : Catalog) : Prop where
  filed : c.Filed
  entries : ∀ id e, c.get? id = some e → e.Regular

/-- An entry is where it was in its lifecycle, or has been put there unloaded. -/
def Leaves (c d : Catalog) : Prop :=
  ∀ id e, d.get? id = some e →
    e.Unloaded ∨ ∃ old, c.get? id = some old ∧ old.Alongside e

/-- An entry in setup under the id of the one that was asked for is of the same integration. -/
def Awaits (c : Catalog) (asked : Entry) : Prop :=
  ∀ e, c.get? asked.id = some e → e.phase = .setupInProgress → e.domain = asked.domain

variable {c d : Catalog} {asked : Entry} {entries : List Entry}

theorem Leaves.refl (c : Catalog) : c.Leaves c := fun _ e held => .inr ⟨e, held, .refl e⟩

theorem Leaves.regular (leaves : c.Leaves d) (filed : d.Filed) (regular : c.Regular) :
    d.Regular := by
  refine ⟨filed, fun id e held => ?_⟩
  rcases leaves id e held with unloaded | ⟨old, before, same⟩
  · exact unloaded.regular
  · exact same.regular (regular.entries id old before)

theorem Leaves.awaits (leaves : c.Leaves d) (awaits : c.Awaits asked) : d.Awaits asked := by
  intro e held inSetup
  rcases leaves asked.id e held with ⟨phase, _⟩ | ⟨old, before, same⟩
  · cases phase.symm.trans inSetup
  · exact same.domain.trans (awaits old before (same.phase.symm.trans inSetup))

theorem leaves_restoreAll (unloaded : ∀ e ∈ entries, e.Unloaded) (leaves : c.Leaves d) :
    c.Leaves (d.restoreAll entries) := by
  induction entries generalizing d with
  | nil => exact leaves
  | cons first entries ih =>
    obtain ⟨firstUnloaded, unloaded⟩ := List.forall_mem_cons.mp unloaded
    refine ih unloaded fun id e held => ?_
    rw [get?_restore] at held
    split at held
    · cases held
      exact .inl firstUnloaded
    · exact leaves id e held

end Catalog

namespace Registry

variable {r s : Registry}

/-- Entries are added before anything was done to load them. -/
def AddsUnloaded : Change → Prop
  | .mutate (.add e) => e.Unloaded
  | _ => True

theorem Mutation.Step.leaves {c planned : Catalog} {m : Mutation} (step : m.Step c planned)
    (filed : c.Filed) (adds : AddsUnloaded (.mutate m)) : c.Leaves planned := by
  intro id e held
  rcases step.origin filed held with rfl | ⟨old, before, rfl | ⟨u, now, -, changed⟩⟩
  · exact .inl adds
  · exact .inr ⟨e, before, .refl e⟩
  · have same := old.alongside_apply u now
    rw [changed] at same
    exact .inr ⟨old, before, same⟩

/-- A change leaves every entry where it is in its lifecycle. -/
theorem leaves_change (filed : r.Filed) {c : Change} (adds : AddsUnloaded c) :
    r.toCatalog.Leaves (c.apply r).toCatalog ∧ (c.apply r).Filed := by
  rcases c.catalog r with same | ⟨m, rfl, step⟩
  · rw [same]
    exact ⟨.refl _, filed⟩
  · exact ⟨step.leaves filed adds, step.filed filed⟩

theorem settingUp_change (r : Registry) (c : Change) : (c.apply r).settingUp = r.settingUp := by
  cases c with
  | mutate m =>
    rw [Change.apply, m.run_eq]
    split
    · rfl
    · rfl
    · rw [saved_fst]
  | save => rfl
  | handle domain => rfl
  | storage writable => rfl

theorem leaves_load (filed : r.Filed) (now : Instant) :
    r.toCatalog.Leaves (r.load now).1.toCatalog ∧ (r.load now).1.Filed := by
  unfold load
  split
  · rename_i entries loads
    exact ⟨Catalog.leaves_restoreAll (Disk.load_unloaded loads) (.refl _), filed.restoreAll⟩
  · exact ⟨.refl _, filed⟩

theorem settingUp_load (r : Registry) (now : Instant) :
    (r.load now).1.settingUp = r.settingUp := by
  unfold load
  split <;> rfl

/-- After a restart, too, no entry is further in its lifecycle than before. -/
theorem leaves_restarted (r : Registry) (now : Instant) :
    r.toCatalog.Leaves (r.restarted now).toCatalog ∧ (r.restarted now).Filed := by
  obtain ⟨leaves, filed⟩ := leaves_load (r := onDisk r.disk r.handled) Catalog.filed_empty now
  refine ⟨fun id e held => ?_, filed⟩
  rcases leaves id e held with unloaded | ⟨old, before, _⟩
  · exact .inl unloaded
  · simp [onDisk, Catalog.get?] at before

/-- An update leaves all entries in their phases, and with their reasons. -/
theorem phase_update (filed : r.Filed) (id : String) (u : Entry.Update) (now : Instant)
    (other : String) :
    ((r.update id u now).1.get? other).map (fun e => (e.phase, e.reason)) =
      (r.get? other).map fun e => (e.phase, e.reason) := by
  change (((Mutation.update id u now).run r).1.get? other).map _ = _
  rw [Mutation.run_eq]
  split
  · rfl
  · rfl
  rename_i planned plans
  rw [saved_fst]
  change (planned.get? other).map _ = _
  obtain ⟨a, decides, rfl⟩ := Mutation.plan_step plans
  cases decides with
  | @update id u now old e held changed =>
    rw [Catalog.Edit.apply, Catalog.get?_amend]
    split
    · rename_i here
      obtain rfl : id = other := (filed id old held).symm.trans
        ((Entry.apply_changed changed).1.symm.trans here)
      have same := old.alongside_apply u now
      rw [changed] at same
      rw [held, Option.map_some, Option.map_some, same.phase, same.reason]
    · rfl

end Registry

end Onboarding
