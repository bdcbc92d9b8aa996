import Onboarding.Proofs.Registry.Coherence
import Onboarding.Proofs.Registry.Lifecycle
import Onboarding.Proofs.Registry.Reading

/-! What the operations of the registry can do. Each of them either leaves everything as it was or
changes the catalog in one way and then writes the file. -/
namespace Onboarding

namespace Entry

/-- An update leaves an entry its id and its domain. -/
theorem apply_changed {old e : Entry} {u : Update} {now : Instant}
    (changed : old.apply u now = (e, true)) : e.id = old.id ∧ e.domain = old.domain := by
  unfold apply at changed
  split at changed
  · cases changed
    exact ⟨rfl, rfl⟩
  · cases changed

theorem apply_unchanged {old e : Entry} {u : Update} {now : Instant}
    (unchanged : old.apply u now = (e, false)) : e = old := by
  unfold apply at unchanged
  split at unchanged
  · cases unchanged
  · cases unchanged
    rfl

theorem enter_same {old e : Entry} {target : Phase} {reason : Option String}
    (led : old.enter target reason = .ok e) :
    e.id = old.id ∧ e.domain = old.domain ∧ e.identity? = old.identity? ∧
      e.persisted = old.persisted := by
  unfold enter at led
  cases moved : old.phase.move target with
  | error refusal =>
    rw [moved] at led
    cases led
  | ok phase =>
    rw [moved] at led
    cases led
    exact ⟨rfl, rfl, rfl, rfl⟩

end Entry

namespace Registry

variable {α : Type} (r : Registry)

theorem saved_fst (a : α) : (r.saved a).1 = { r with disk := (r.disk.save r.toList).1 } := by
  unfold saved save
  split <;> simp_all

theorem saved_writable (writable : r.disk.writable = true) (a : α) :
    r.saved a =
      ({ r with disk := { r.disk with file := some (Disk.holding r.toList) } }, .ok a) := by
  simp [saved, save, Disk.save, writable, Disk.holding]

/-- The registry with another catalog, which the file holds as well. -/
def written (c : Catalog) : Registry :=
  { r with toCatalog := c, disk := { r.disk with file := some (Disk.holding c.toList) } }

theorem saved_written (writable : r.disk.writable = true) (c : Catalog) (a : α) :
    saved { r with toCatalog := c } a = (r.written c, .ok a) :=
  saved_writable { r with toCatalog := c } writable a

theorem saved_broken (broken : r.disk.writable = false) (a : α) :
    r.saved a = (r, .error (.storage .io)) := by
  simp [saved, save, Disk.save, broken]

theorem add_taken {e : Entry} {i : Identity} (has : e.identity? = some i)
    (taken : i ∈ r.byUniqueId) : r.add e = (r, .error (.alreadyExists i)) := by
  simp [add, has, taken]

theorem add_free {e : Entry} (free : ∀ i, e.identity? = some i → i ∉ r.byUniqueId) :
    r.add e = saved { r with toCatalog := r.restore e } e := by
  cases has : e.identity? with
  | none =>
    simp only [add, Catalog.restore, has]
    rfl
  | some i => simp [add, Catalog.restore, has, free i has]

theorem update_absent {id : String} {u : Entry.Update} {now : Instant}
    (absent : r.get? id = none) : r.update id u now = (r, .error (.notFound id)) := by
  simp [update, absent]

theorem update_unchanged {id : String} {u : Entry.Update} {now : Instant} {old e : Entry}
    (held : r.get? id = some old) (unchanged : old.apply u now = (e, false)) :
    r.update id u now = (r, .ok false) := by
  simp [update, held, unchanged]

theorem update_changed {id : String} {u : Entry.Update} {now : Instant} {old e : Entry}
    (held : r.get? id = some old) (changed : old.apply u now = (e, true)) :
    r.update id u now = saved { r with toCatalog := r.amend id old e } true := by
  simp only [update, held, changed]
  rfl

theorem remove_absent {id : String} (absent : r.get? id = none) :
    r.remove id = (r, .error (.notFound id)) := by
  simp [remove, absent]

theorem remove_held {id : String} {e : Entry} (held : r.get? id = some e) :
    r.remove id = saved { r with toCatalog := r.discard e } e := by
  simp [remove, held]

end Registry

end Onboarding
