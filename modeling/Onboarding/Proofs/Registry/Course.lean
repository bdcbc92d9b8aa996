import Onboarding.Proofs.Job.Floor
import Onboarding.Proofs.Registry.Mutation
import Onboarding.Proofs.Registry.Restoring

/-! Courses of events around a registry: changes, setups and unloads with the answers of the
integrations, failures of the storage, and restarts from the file. -/
namespace Onboarding.Registry

/-- What is done to a registry at once. -/
inductive Change where
  | mutate (m : Mutation)
  | save
  /-- The integration of a domain takes part from now on. -/
  | handle (domain : String)
  /-- The storage fails from now on, or works again. -/
  | storage (writable : Bool)

def Change.apply (r : Registry) : Change → Registry
  | mutate m => (m.run r).1
  | save => r.save.1
  | handle domain => { r with handled := r.handled.insert domain }
  | storage writable => { r with disk := { r.disk with writable } }

/-- The catalog after a change is as before, or as a call planned it. -/
theorem Change.catalog (r : Registry) (c : Change) :
    (c.apply r).toCatalog = r.toCatalog ∨
      ∃ m, c = .mutate m ∧ m.Step r.toCatalog (c.apply r).toCatalog := by
  cases c with
  | mutate m =>
    rw [apply, m.run_eq]
    split
    · exact .inl rfl
    · exact .inl rfl
    · rename_i planned plans
      rw [saved_fst]
      exact .inr ⟨m, rfl, Mutation.plan_step plans⟩
  | save => exact .inl rfl
  | handle domain => exact .inl rfl
  | storage writable => exact .inl rfl

/-- Entries are added under ids that are not in use. -/
def Fresh (r : Registry) : Change → Prop
  | .mutate (.add e) => r.get? e.id = none
  | _ => True

/-- What is asked of a registry and may have to wait. -/
inductive Errand where
  | setUp (id : String)
  | unload (id : String)
  | reload (id : String)

def Errand.action : Errand → Action Unit
  | setUp id => Action.setUp id
  | unload id => Action.unload id
  | reload id => Action.reload id

theorem Errand.cycles (e : Errand) : e.action.Cycles := by
  cases e with
  | setUp id => exact Action.cycles_setUp id
  | unload id => exact Action.cycles_unload id
  | reload id => exact Action.cycles_reload id

/-- The registry that is made from the file, with the integrations as before. -/
def restarted (r : Registry) (now : Instant) : Registry :=
  ((onDisk r.disk r.handled).load now).1

theorem restarted_ok {r : Registry} {now : Instant} {entries : List Entry}
    (loads : r.disk.load now = .ok entries) :
    r.restarted now =
      { onDisk r.disk r.handled with toCatalog := Catalog.restoreAll {} entries } := by
  rw [restarted, load, onDisk, loads]
  rfl

theorem restarted_error {r : Registry} {now : Instant} {e : StorageError}
    (fails : r.disk.load now = .error e) : r.restarted now = onDisk r.disk r.handled := by
  rw [restarted, load, onDisk, fails]

inductive Event where
  | change (c : Change)
  | errand (e : Errand)
  /-- The errand in a given place among those that wait has its answer or its turn. -/
  | reply (place : Nat) (verdict : Verdict)
  | restart (now : Instant)

/-- A registry with its past and with the errands that wait. -/
abbrev Course := Floor Registry .hosting

namespace Course

def tell (verdict : Verdict) : ∀ q : Hosting, Option q.Reply
  | .setUp _ => some verdict
  | .awaitTurn => some ()

def happen (f : Course) : Event → Course
  | .change c => f.put (c.apply f.state)
  | .errand e => f.run (e.action.run >>= fun _ => pure ())
  | .reply place verdict => f.reply place (tell verdict)
  -- errands do not outlast a restart
  | .restart now => { f.put (f.state.restarted now) with waiting := [] }

def after (f : Course) (events : List Event) : Course := events.foldl happen f

theorem seen_happen (f : Course) (event : Event) : f.seen <:+ (f.happen event).seen := by
  cases event with
  | change c => exact f.seen_put _
  | errand e => exact f.seen_run _
  | reply place verdict => exact f.seen_reply place _
  | restart now => exact f.seen_put _

theorem seen_after (f : Course) (events : List Event) : f.seen <:+ (f.after events).seen :=
  foldl_induction (motive := fun g _ => f.seen <:+ g.seen) (List.suffix_refl _)
    fun g event _ seen => seen.trans (seen_happen g event)

/-- Every change on the way meets a condition on the registry that it is done to. -/
def Throughout (A : Registry → Change → Prop) : Course → List Event → Prop
  | _, [] => True
  | f, event :: events =>
    (∀ c, event = .change c → A f.state c) ∧ Throughout A (happen f event) events

/-- A registry that has not read its file yet. -/
def opened (disk : Disk) (handled : Std.ExtTreeSet String) : Course where
  state := onDisk disk handled

end Course

/-- What changes under a condition, all errands and restarts keep. -/
structure Invariant (P : Registry → Prop) (A : Registry → Change → Prop) : Prop where
  change : ∀ {r c}, P r → A r c → P (c.apply r)
  lifecycle : ∀ {r s}, P r → Lifecycle r s → P s
  restart : ∀ {r} now, P r → P (r.restarted now)

namespace Invariant

variable {P : Registry → Prop} {A : Registry → Change → Prop}

theorem errand (inv : Invariant P A) (e : Errand) {r : Registry} (kept : P r) :
    (e.action.run >>= fun _ => pure ()).Keeps P (fun _ _ => True) r := by
  refine Job.keeps_bind kept ?_ fun _ _ _ => trivial
  exact Job.keeps_moves (fun _ _ => trivial)
    (fun r s kept moved => ⟨inv.lifecycle kept moved, trivial⟩) kept (e.cycles r trivial)

theorem happen (inv : Invariant P A) {f : Course} (keeps : f.Keeps P fun _ _ => True)
    {event : Event} (allowed : ∀ c, event = .change c → A f.state c) :
    (f.happen event).Keeps P fun _ _ => True := by
  cases event with
  | change c => exact keeps.put (inv.change keeps.state (allowed c rfl)) trivial
  | errand e => exact keeps.run (inv.errand e keeps.state)
  | reply place verdict => exact keeps.reply place (Course.tell verdict)
  | restart now =>
    have put := keeps.put (inv.restart now keeps.state) trivial
    exact ⟨put.moments, put.steps, by simp [Course.happen]⟩

theorem after (inv : Invariant P A) {f : Course} (keeps : f.Keeps P fun _ _ => True)
    {events : List Event} (allowed : f.Throughout A events) :
    (f.after events).Keeps P fun _ _ => True :=
  (foldl_induction
    (motive := fun (g : Course) later => g.Keeps P (fun _ _ => True) ∧ g.Throughout A later)
    ⟨keeps, allowed⟩ fun _ _ _ ⟨keeps, allowed⟩ => ⟨inv.happen keeps allowed.1, allowed.2⟩).1

end Invariant

/-- What the operations keep of the catalog and of the disk, told by what they do to each. -/
structure Upkeep (K : Catalog → Prop) (D : Disk → Prop) (A : Registry → Change → Prop) : Prop where
  step : ∀ {r m c}, K r.toCatalog → A r (.mutate m) → m.Step r.toCatalog c → K c
  phase : ∀ {c id old e target reason}, K c → c.get? id = some old →
    old.enter target reason = .ok e → K (c.revise e)
  save : ∀ {d c}, K c → D d → D (d.save c.toList).1
  storage : ∀ {d writable}, D d → D { d with writable }
  load : ∀ {d now entries}, D d → d.load now = .ok entries →
    K (Catalog.restoreAll {} entries)
  empty : K {}

namespace Upkeep

variable {K : Catalog → Prop} {D : Disk → Prop} {A : Registry → Change → Prop}

theorem change (up : Upkeep K D A) {r : Registry} {c : Change}
    (kept : K r.toCatalog ∧ D r.disk) (allowed : A r c) :
    K (c.apply r).toCatalog ∧ D (c.apply r).disk := by
  obtain ⟨catalog, disk⟩ := kept
  cases c with
  | mutate m =>
    rw [Change.apply, m.run_eq]
    split
    · exact ⟨catalog, disk⟩
    · exact ⟨catalog, disk⟩
    · rename_i planned plans
      have kept := up.step catalog allowed (Mutation.plan_step plans)
      rw [saved_fst]
      exact ⟨kept, up.save kept disk⟩
  | save => exact ⟨catalog, up.save catalog disk⟩
  | handle domain => exact ⟨catalog, disk⟩
  | storage writable => exact ⟨catalog, up.storage disk⟩

theorem invariant (up : Upkeep K D A) :
    Invariant (fun r => K r.toCatalog ∧ D r.disk) A where
  change := up.change
  lifecycle := by
    rintro r s ⟨catalog, disk⟩ moved
    cases moved with
    | turn busy => exact ⟨catalog, disk⟩
    | phase held led => exact ⟨up.phase catalog held led, disk⟩
  restart := by
    rintro r now ⟨_, disk⟩
    cases loads : r.disk.load now with
    | ok entries =>
      rw [restarted_ok loads]
      exact ⟨up.load disk loads, disk⟩
    | error e =>
      rw [restarted_error loads]
      exact ⟨up.empty, disk⟩

theorem opened (up : Upkeep K D A) {disk : Disk} {handled : Std.ExtTreeSet String} (start : D disk)
    {events : List Event} (allowed : (Course.opened disk handled).Throughout A events) :
    ∀ r ∈ ((Course.opened disk handled).after events).seen, K r.toCatalog ∧ D r.disk :=
  (up.invariant.after (Floor.keeps_start ⟨up.empty, start⟩) allowed).moments

end Upkeep

theorem upkeep_filed : Upkeep Catalog.Filed (fun _ => True) fun _ _ => True where
  step := fun filed _ step => step.filed filed
  phase := fun filed _ _ => filed.revise _
  save := fun _ _ => trivial
  storage := fun _ => trivial
  load := fun _ _ => Catalog.filed_empty.restoreAll
  empty := Catalog.filed_empty

theorem filed_change {r : Registry} (filed : r.Filed) (c : Change) : (c.apply r).Filed :=
  (upkeep_filed.change ⟨filed, trivial⟩ trivial).1

theorem filed_lifecycle {r s : Registry} (filed : r.Filed) (moved : Lifecycle r s) : s.Filed := by
  cases moved with
  | turn busy => exact filed
  | phase held led => exact filed.revise _

theorem filed_restarted (r : Registry) (now : Instant) : (r.restarted now).Filed := by
  cases loads : r.disk.load now with
  | ok entries =>
    rw [restarted_ok loads]
    exact Catalog.filed_empty.restoreAll
  | error e =>
    rw [restarted_error loads]
    exact Catalog.filed_empty

theorem Course.throughout_true (f : Course) (events : List Event) :
    f.Throughout (fun _ _ => True) events := by
  induction events generalizing f with
  | nil => trivial
  | cons event events ih => exact ⟨fun _ _ => trivial, ih (f.happen event)⟩

end Onboarding.Registry
