import Onboarding.Proofs.Registry.InStep
import Onboarding.Proofs.Registry.Uniqueness

/-! Changes of the registry that fail. What is checked beforehand fails without a trace. A write
that fails leaves the file as it was, but the entries in memory as if it had succeeded: nothing is
taken back. After that a call that finds nothing to change succeeds without a write, so only a call
that changes something brings the file in step with the memory. -/
namespace Onboarding.Registry

/-- A fresh registry that loads the file holds the entries in memory as they are kept. -/
def Reloads (s : Registry) : Prop :=
  ∀ now, ∃ fresh, (onDisk s.disk s.handled).load now = (fresh, .ok ()) ∧
    fresh.toList = s.toList.map Entry.persisted ∧
    ∀ id, fresh.get? id = (s.get? id).map Entry.persisted

theorem reloads {s : Registry} (filed : s.Filed) (inStep : s.InStep)
    (back : ∀ e ∈ s.toList, e.ReadsBack Disk.room) : s.Reloads := fun now =>
  ⟨_, inStep.load back now, Catalog.toList_reloaded filed, Catalog.get?_reloaded filed⟩

def repaired (r : Registry) : Registry := { r with disk := { r.disk with writable := true } }

/-- At every moment of every course, whatever failed before, a call that is to change the registry
ends in one of four ways. If it is refused, nothing is changed. If the file cannot be written, the
file is as before, and the memory as if it had been written. If there was nothing to change,
nothing is changed, and the file is in step with the memory if it was before. Otherwise it is in
step. A fresh registry reads from a file in step what is in memory, if what was written for the
data and the times can be read back. -/
theorem mutation_ends (disk : Disk) (handled : Std.ExtTreeSet String) (events : List Event)
    (m : Mutation) :
    ∀ r ∈ ((Course.opened disk handled).after events).seen,
      match m.run r with
      | (s, .error (.storage _)) =>
        s.disk = r.disk ∧ s.toCatalog = (m.run r.repaired).1.toCatalog
      | (s, .error _) => s = r
      | (s, .ok false) =>
        s = r ∧ (r.InStep → (∀ e ∈ s.toList, e.ReadsBack Disk.room) → s.Reloads)
      | (s, .ok true) => s.InStep ∧ ((∀ e ∈ s.toList, e.ReadsBack Disk.room) → s.Reloads) := by
  intro r seen
  have filed := (upkeep_filed.opened trivial (Course.throughout_true _ events) r seen).1
  rw [m.run_eq r, m.run_eq r.repaired]
  cases plans : m.plan r.toCatalog with
  | error e =>
    cases e with
    | storage x => exact absurd rfl (Mutation.plan_error plans x)
    | _ => rfl
  | ok planned =>
    cases planned with
    | none => exact ⟨rfl, reloads filed⟩
    | some c =>
      -- the plan does not look at the storage, so it is the same with one that works
      have again : m.plan r.repaired.toCatalog = .ok (some c) := plans
      cases writable : r.disk.writable with
      | true =>
        let s : Registry :=
          { r with toCatalog := c, disk := { r.disk with file := some (Disk.holding c.toList) } }
        have done : saved { r with toCatalog := c } true = (s, .ok true) :=
          saved_writable { r with toCatalog := c } writable true
        have inStep : s.InStep := .inl rfl
        have filedAfter : s.Filed := (Mutation.plan_step plans).filed filed
        simp only [done]
        exact ⟨inStep, reloads filedAfter inStep⟩
      | false =>
        have done := saved_broken { r with toCatalog := c } writable true
        simp only [done, again, saved_fst, and_self]

theorem lampA_reloads : ((onDisk {} ∅).add lampA).1.Reloads :=
  (mutation_ends {} ∅ [] (.add lampA) _ (List.mem_cons_self ..)).2
    (List.forall_mem_singleton.mpr lampA_readsBack)

/-- That a failed call changes neither the catalog nor the file, and that after any other the file
is in step with the memory. -/
def AllOrNothing (r : Registry) (m : Mutation) : Prop :=
  match m.run r with
  | (s, .error _) => s.toCatalog = r.toCatalog ∧ s.disk.file = r.disk.file
  | (s, .ok _) => s.Reloads

def nested : Nat → Value
  | 0 => .null
  | depth + 1 => .list [nested depth]

theorem value_nested {room depth : Nat} (deeper : room < depth) :
    Decoder.value room (nested depth).reread = none := by
  induction depth generalizing room with
  | zero => omega
  | succ depth ih =>
    cases room with
    | zero => rfl
    | succ room =>
      have inner := ih (Nat.lt_of_succ_lt_succ deeper)
      simp [nested, Value.reread, Value.rereadItems, Decoder.value, Decoder.values, Decoder.enter,
        inner]

def nestedLamp (depth : Nat) : Entry :=
  { lampA with data := (∅ : Data).insert "k" (nested depth) }

theorem reread_nestedLamp {room depth : Nat} (deeper : room ≤ depth) :
    (nestedLamp depth).reread room = none := by
  have one : (nestedLamp depth).data.toValue = .object [("k", nested depth)] := rfl
  have unread : Decoder.data room (nestedLamp depth).data.toValue.reread = none := by
    cases room with
    | zero => simp [one, Value.reread, Decoder.data, Decoder.enter]
    | succ room =>
      simp [one, Value.reread, Value.rereadFields, Decoder.data, Decoder.fieldValues,
        Decoder.enter, value_nested deeper]
  simp [Entry.reread, unread]

theorem not_reloads {s : Registry} {now : Instant} {e : StorageError}
    (fails : s.disk.load now = .error e) : ¬ s.Reloads := by
  intro reloads
  obtain ⟨fresh, loads, _⟩ := reloads now
  rw [load, onDisk, fails] at loads
  cases loads

/-- An entry that cannot be read again is added all the same. -/
theorem add_unread {e : Entry} (unread : e.reread Disk.room = none) :
    ¬ (onDisk {} ∅).AllOrNothing (.add e) := by
  have only : (Catalog.restore {} e).toList = [e] := by
    cases has : e.identity? <;> simp only [Catalog.restore, Catalog.assign, has] <;> rfl
  have added : (onDisk {} ∅).add e =
      ({ toCatalog := Catalog.restore {} e, disk := { file := some (Disk.holding [e]) } },
        .ok e) := by
    have free : ∀ i, e.identity? = some i → i ∉ (onDisk {} ∅).byUniqueId := by simp [onDisk]
    rw [add_free _ free, saved_writable _ rfl]
    simp only [onDisk, only]
  have file : Disk.load { file := some (Disk.holding [e]) } .epoch = .error .json := by
    rw [Disk.load_holding rfl, List.mapM_cons, unread]
    rfl
  rw [AllOrNothing, Mutation.run, added]
  exact not_reloads file

/-- A lamp is added while the storage fails; after that it is updated with nothing to change; and
a lamp is added that cannot be read again. -/
theorem not_all_or_nothing :
    ¬ ((Course.opened {} ∅).after [.change (.storage false)]).state.AllOrNothing (.add lampA) ∧
    ¬ ((Course.opened {} ∅).after [.change (.storage false), .change (.mutate (.add lampA)),
      .change (.storage true)]).state.AllOrNothing (.update "a" {} .epoch) ∧
    ¬ (Course.opened {} ∅).state.AllOrNothing (.add (nestedLamp Disk.room)) := by
  refine ⟨?_, ?_, add_unread (reread_nestedLamp (Nat.le_refl _))⟩
  · rintro ⟨same, _⟩
    have held := congrArg (fun c => (Catalog.get? c "a").isSome) same
    exact absurd held (by decide)
  · intro reloads
    obtain ⟨fresh, loads, _, same⟩ := reloads .epoch
    cases loads
    have held := congrArg Option.isSome (same "a")
    exact absurd held (by decide)

end Onboarding.Registry
