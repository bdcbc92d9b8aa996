import Onboarding.Proofs.Flow.Course
import Onboarding.Proofs.Registry.InStep
import Onboarding.Proofs.Registry.Uniqueness

/-! Restarts around a desk whose storage works. Whenever a new registry is made from the file, it
holds the entries of the one in memory as they are kept, and finds them by id and by domain alike.
It finds them by unique id alike as long as no two entries ever shared one: an entry that was given
the unique id of another is forgotten under it when the other goes, until the next restart. -/
namespace Onboarding

/-- The first catalog holds the entries of the second as they are kept, and finds them alike by id
and by domain. -/
structure Catalog.Mirrors (fresh c : Catalog) : Prop where
  entries : fresh.toList = c.toList.map Entry.persisted
  get? : ∀ id, fresh.get? id = (c.get? id).map Entry.persisted
  ofDomain : ∀ domain, fresh.ofDomain domain = (c.ofDomain domain).map Entry.persisted

def Catalog.HoldsAlike (fresh c : Catalog) : Prop :=
  ∀ i, fresh.holder? i = (c.holder? i).map Entry.persisted

theorem Catalog.mirrors_reloaded {c : Catalog} (indexed : c.Indexed) : c.reloaded.Mirrors c where
  entries := toList_reloaded indexed.filed
  get? := get?_reloaded indexed.filed
  ofDomain := ofDomain_reloaded indexed

namespace Desk

variable {H : Type} {F : Signature} {d t : Desk H}

def Works (d : Desk H) (c : Registry.Change) : Prop := d.Admits c ∧ c ≠ .storage false

theorem Admits.fresh {c : Registry.Change} (admitted : d.Admits c) : d.registry.Fresh c := by
  cases c with
  | mutate m =>
    cases m with
    | add e => exact admitted.1
    | _ => trivial
  | _ => trivial

/-- From one moment to the next every entry is found under its unique id as before, unless two
share one now. -/
def Onward (d t : Desk H) : Prop := d.registry.Found → t.registry.Unique → t.registry.Found

theorem onward_move (steady : d.registry.Steady) (moved : Move d t) :
    t.registry.Steady ∧ d.Onward t := by
  cases moved with
  | aside registry issued => exact ⟨registry ▸ steady, fun found _ => registry ▸ found⟩
  | issue => exact ⟨steady, fun found _ => found⟩
  | mutate admitted registry issued =>
    have onward := steady.mutate admitted.fresh
    rw [← registry] at onward
    exact ⟨onward.steady, onward.found⟩
  | lifecycle moved =>
    have onward := steady.lifecycle moved
    exact ⟨onward.steady, onward.found⟩

theorem invariant_steady :
    Invariant (fun d : Desk H => d.Orderly ∧ d.registry.Steady) Onward Works where
  orderly _ kept := kept.1
  move d t kept moved := by
    obtain ⟨steady, onward⟩ := onward_move kept.2 moved
    exact ⟨⟨kept.1.move moved, steady⟩, onward⟩
  change d c kept works := by
    have onward := kept.2.change works.1.fresh works.2
    exact ⟨⟨kept.1.change works.1 rfl rfl, onward.steady⟩, onward.found⟩

/-- At every moment of every course on which the storage works, if what is written for the data and
the times of the entries can be read back, a new registry on the file mirrors the one in memory.
Where no two entries share a unique id, they find entries by unique id alike exactly if the one in
memory finds all of them; and so they do if no two entries have shared one so far. -/
theorem restart_mirrors (steps : Steps H F) (handled : Std.ExtTreeSet String) (now : Instant)
    {events : List (Event H F)}
    (works : Course.Throughout steps Works (Course.opened handled now) events) :
    ∀ d past, d :: past <:+ ((Course.opened handled now).after steps events).seen →
      (∀ e ∈ d.registry.toList, e.ReadsBack Disk.room) → ∀ later, ∃ fresh,
        (Registry.onDisk d.registry.disk d.registry.handled).load later = (fresh, .ok ()) ∧
        fresh.Mirrors d.registry.toCatalog ∧
        (d.registry.Unique → (fresh.HoldsAlike d.registry.toCatalog ↔ d.registry.Found)) ∧
        ((∀ t ∈ d :: past, t.registry.Unique) → fresh.HoldsAlike d.registry.toCatalog) := by
  intro d past before back later
  let first : Course H F := .opened handled now
  have start : first.state.registry.Steady := Registry.steady_onDisk handled
  have orderly : first.state.Orderly :=
    ⟨start.indexed.filed, fun n _ => by simp [first, Course.opened, Registry.onDisk, Catalog.get?]⟩
  have keeps := invariant_steady.after (Floor.keeps_start ⟨orderly, start⟩) works
  have steady : d.registry.Steady := (keeps.moments d (before.subset (by simp))).2
  have alike (unique : d.registry.Unique) :=
    Catalog.holder?_reloaded steady.indexed unique
  refine ⟨_, steady.inStep.load back later, Catalog.mirrors_reloaded steady.indexed, alike, ?_⟩
  intro unique
  -- the moments are counted back to the first, where nothing was registered and all was found
  have begins : [first.state] <:+ (first.after steps events).seen := first.seen_after steps events
  have found := keeps.lasting begins Catalog.found_empty before unique
  exact (alike (unique d (by simp))).mpr (found d (by simp))

def Silence : Signature := ⟨Empty, fun q => nomatch q⟩

/-- Flows that claim a unique id and make a lamp of it at once. -/
def lampSteps : Steps Unit Silence := fun _ _ => do
  let _ ← Step.claim "x" true
  return .create "Lamp" ∅ ∅

def lighting : List (Event Unit Silence) :=
  [.integrate "light" { start := (), options := fun _ => none }, .call (.start "light" .user none)]

def lit : Course Unit Silence := (Course.opened ∅ .epoch).after lampSteps lighting

/-- The lamp is loaded in memory; in a new registry it is not, but found all the same. -/
theorem restart_lit : ∃ fresh,
    (Registry.onDisk lit.state.registry.disk lit.state.registry.handled).load .epoch =
      (fresh, .ok ()) ∧
    fresh.Mirrors lit.state.registry.toCatalog ∧ fresh.HoldsAlike lit.state.registry.toCatalog ∧
    lit.state.registry.toList.map (fun e => (e.phase, e.identity?)) =
      [(.loaded, some ⟨"light", "x"⟩)] := by
  have works : Course.Throughout lampSteps Works (Course.opened ∅ .epoch) lighting := by
    refine ⟨?_, ?_, trivial⟩ <;> rintro c ⟨⟩
  let lamp := { Entry.new (Issue.id 1) "light" "Lamp" .epoch with
    uniqueId := some "x", phase := .loaded }
  have only : lit.state.registry.toList = [lamp] := rfl
  have back : lamp.ReadsBack Disk.room := ⟨rfl, rfl, Instant.epoch_reread, Instant.epoch_reread⟩
  have single : lit.seen.all (fun d => d.registry.toList.length ≤ 1) = true := rfl
  have unique : ∀ d ∈ lit.seen, d.registry.Unique := fun d member =>
    Catalog.unique_single (by simpa using List.all_eq_true.mp single d member)
  obtain ⟨fresh, loads, mirrors, _, alike⟩ :=
    restart_mirrors lampSteps ∅ .epoch works lit.state lit.past (List.suffix_refl _)
      (by rw [only]; exact List.forall_mem_singleton.mpr back) .epoch
  exact ⟨fresh, loads, mirrors, alike unique, rfl⟩

/-- That a restart shows in the phases only, where no two entries share a unique id. -/
def RestartsAlike (d : Desk H) : Prop :=
  ∀ later, ∃ fresh,
    (Registry.onDisk d.registry.disk d.registry.handled).load later = (fresh, .ok ()) ∧
    fresh.Mirrors d.registry.toCatalog ∧
    (d.registry.Unique → fresh.HoldsAlike d.registry.toCatalog)

/-- The second of two lamps is given the unique id of the first, and the first is removed. -/
def bereft : List (Event Unit Silence) :=
  [.change (.mutate (.add Registry.lampA)), .change (.mutate (.add Registry.lampB)),
    .change (.mutate (.update "b" { uniqueId := some (some "x") } .epoch)),
    .change (.mutate (.remove "a"))]

def remnant : Desk Unit := ((Course.opened ∅ .epoch).after lampSteps bereft).state

theorem toList_remnant : remnant.registry.toList = [{ Registry.lampB with uniqueId := some "x" }] :=
  rfl

theorem restart_remnant :
    Course.Throughout lampSteps Works (Course.opened ∅ .epoch) bereft ∧
    (∀ e ∈ remnant.registry.toList, e.ReadsBack Disk.room) ∧ ¬ remnant.RestartsAlike := by
  have back : ∀ e ∈ remnant.registry.toList, e.ReadsBack Disk.room := by
    rw [toList_remnant]
    exact List.forall_mem_singleton.mpr ⟨rfl, rfl, Instant.epoch_reread, Instant.epoch_reread⟩
  have unique : remnant.registry.Unique :=
    Catalog.unique_single (Nat.le_of_eq (congrArg List.length toList_remnant))
  refine ⟨?_, back, fun alike => ?_⟩
  · refine ⟨?_, ?_, ?_, ?_, trivial⟩ <;> rintro c ⟨⟩
    · exact ⟨⟨rfl, fun n _ => Issue.ne_id (by decide) n⟩, by rintro ⟨⟩⟩
    · exact ⟨⟨rfl, fun n _ => Issue.ne_id (by decide) n⟩, by rintro ⟨⟩⟩
    · exact ⟨trivial, by rintro ⟨⟩⟩
    · exact ⟨trivial, by rintro ⟨⟩⟩
  · obtain ⟨fresh, loads, _, holds⟩ := alike .epoch
    cases loads.symm.trans (Registry.load_written rfl back .epoch)
    have found := congrArg Option.isSome (holds unique ⟨"light", "x"⟩)
    exact absurd found (by decide)

end Desk

end Onboarding
