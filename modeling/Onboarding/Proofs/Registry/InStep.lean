import Onboarding.Proofs.Registry.Course

/-! The file in step with the memory. As long as the storage works, the file holds what a save
would write at every moment: an unchanged update and the phases of the lifecycle need no write. -/
namespace Onboarding

theorem Disk.holding_persisted (entries : List Entry) :
    holding (entries.map Entry.persisted) = holding entries := by
  have same : (entries.map Entry.persisted).map Entry.toValue = entries.map Entry.toValue := by
    rw [List.map_map]
    rfl
  rw [holding, holding, document, document, same]

namespace Registry

/-- The file holds what is in memory, or there is nothing to hold. -/
def InStep (r : Registry) : Prop :=
  r.disk.file = some (Disk.holding r.toList) ∨ r.disk.file = none ∧ r.toList = []

theorem InStep.load {r : Registry} (inStep : r.InStep)
    (back : ∀ e ∈ r.toList, e.ReadsBack Disk.room) (now : Instant) :
    (onDisk r.disk r.handled).load now =
      ({ onDisk r.disk r.handled with toCatalog := r.reloaded }, .ok ()) := by
  rcases inStep with file | ⟨file, empty⟩
  · exact load_written file back now
  · rw [Registry.load, onDisk, Disk.load, file, Catalog.reloaded, empty]
    rfl

/-- A registry whose storage works and whose file and indexes are right. -/
structure Steady (r : Registry) : Prop where
  writable : r.disk.writable = true
  inStep : r.InStep
  indexed : r.Indexed

theorem steady_onDisk (handled : Std.ExtTreeSet String) : (onDisk {} handled).Steady :=
  ⟨rfl, .inr ⟨rfl, rfl⟩, Catalog.indexed_empty⟩

/-- One step of a steady registry: it stays steady, and it finds every entry under its unique id as
before, unless two share one now. -/
structure Onward (r s : Registry) : Prop where
  steady : s.Steady
  found : r.Found → s.Unique → s.Found

variable {r s : Registry}

theorem Steady.refl (steady : r.Steady) : r.Onward r :=
  ⟨steady, fun found _ => found⟩

theorem Steady.mutate (steady : r.Steady) {m : Mutation} (fresh : r.Fresh (.mutate m)) :
    r.Onward (m.run r).1 := by
  have free : ∀ e, m = .add e → r.get? e.id = none := by
    rintro e rfl
    exact fresh
  rw [m.run_eq]
  split
  · exact steady.refl
  · exact steady.refl
  · rename_i planned plans
    have step := Mutation.plan_step plans
    rw [saved_writable { r with toCatalog := planned } steady.writable]
    exact ⟨⟨steady.writable, .inl rfl, step.indexed steady.indexed free⟩,
      step.found steady.indexed.filed⟩

theorem Steady.change (steady : r.Steady) {c : Change} (fresh : r.Fresh c)
    (works : c ≠ .storage false) : r.Onward (c.apply r) := by
  cases c with
  | mutate m => exact steady.mutate fresh
  | save =>
    have written : (Change.save.apply r) =
        { r with disk := { r.disk with file := some (Disk.holding r.toList) } } := by
      simp [Change.apply, save, Disk.save, steady.writable, Disk.holding]
    rw [written]
    exact ⟨⟨steady.writable, .inl rfl, steady.indexed⟩, fun found _ => found⟩
  | handle domain =>
    exact ⟨⟨steady.writable, steady.inStep, steady.indexed⟩, fun found _ => found⟩
  | storage writable =>
    cases writable with
    | false => exact absurd rfl works
    | true => exact ⟨⟨rfl, steady.inStep, steady.indexed⟩, fun found _ => found⟩

/-- The phases of the lifecycle are not written, so the file stays in step. -/
theorem Steady.lifecycle (steady : r.Steady) (moved : Lifecycle r s) :
    r.Onward s := by
  cases moved with
  | turn busy =>
    exact ⟨⟨steady.writable, steady.inStep, steady.indexed⟩, fun found _ => found⟩
  | @phase id old e target reason held led =>
    obtain ⟨here, domain, same, kept⟩ := Entry.enter_same led
    obtain rfl := here.trans (steady.indexed.filed id old held)
    -- the document is made of what is persisted of the entries, and that is as before
    have entries : (r.revise e).toList.map Entry.persisted = r.toList.map Entry.persisted := by
      refine Catalog.toList_map_eq fun id => ?_
      rw [Catalog.get?_revise]
      split
      · rename_i there
        rw [← there, held, Option.map_some, Option.map_some, kept]
      · rfl
    refine ⟨⟨steady.writable, ?_, steady.indexed.revise held domain same⟩,
      fun found _ => found.revise held same⟩
    rcases steady.inStep with file | ⟨file, empty⟩
    · refine .inl ?_
      rw [file, ← Disk.holding_persisted, ← entries, Disk.holding_persisted]
    · refine .inr ⟨file, ?_⟩
      rw [empty, List.map_nil, List.map_eq_nil_iff] at entries
      exact entries

end Registry

end Onboarding
