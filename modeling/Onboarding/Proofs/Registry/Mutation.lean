import Onboarding.Proofs.Registry.Operations

/-! The calls that change what is registered. Such a call decides on an edit of the catalog before
anything is written: it takes one entry in, puts another version in its place, or takes it out. -/
namespace Onboarding

namespace Catalog

/-- What is made of a catalog by a call that is not refused. -/
inductive Edit where
  | restore (e : Entry)
  | amend (id : String) (old e : Entry)
  | discard (e : Entry)

def Edit.apply (c : Catalog) : Edit → Catalog
  | restore e => c.restore e
  | amend id old e => c.amend id old e
  | discard e => c.discard e

end Catalog

namespace Registry

open Catalog (Edit)

/-- A call that is to change what is registered. -/
inductive Mutation where
  | add (e : Entry)
  | update (id : String) (u : Entry.Update) (now : Instant)
  | remove (id : String)

namespace Mutation

/-- The registry after the call, and whether the call changed anything. -/
def run (r : Registry) : Mutation → Registry × Except RegistryError Bool
  | add e => ((r.add e).1, (r.add e).2.map fun _ => true)
  | update id u now => r.update id u now
  | remove id => ((r.remove id).1, (r.remove id).2.map fun _ => true)

/-- The edit that the call decides on, if it is not refused and there is anything to change. -/
def edit? (c : Catalog) : Mutation → Except RegistryError (Option Edit)
  | add e =>
    match e.identity? with
    | none => .ok (some (.restore e))
    | some i => if i ∈ c.byUniqueId then .error (.alreadyExists i) else .ok (some (.restore e))
  | update id u now =>
    match c.get? id with
    | none => .error (.notFound id)
    | some old =>
      match old.apply u now with
      | (_, false) => .ok none
      | (e, true) => .ok (some (.amend id old e))
  | remove id =>
    match c.get? id with
    | none => .error (.notFound id)
    | some e => .ok (some (.discard e))

/-- What the call makes of the catalog, if it is not refused and there is anything to change. -/
def plan (c : Catalog) (m : Mutation) : Except RegistryError (Option Catalog) :=
  (m.edit? c).map fun a => a.map (Edit.apply c)

theorem map_saved {α : Type} (r : Registry) (a : α) :
    ((r.saved a).1, (r.saved a).2.map fun _ => true) = r.saved true := by
  unfold saved
  split <;> rfl

theorem run_eq (r : Registry) (m : Mutation) :
    m.run r = match m.plan r.toCatalog with
      | .error e => (r, .error e)
      | .ok none => (r, .ok false)
      | .ok (some c) => saved { r with toCatalog := c } true := by
  cases m with
  | add e =>
    cases has : e.identity? with
    | none =>
      simp only [run, plan, edit?, has]
      rw [r.add_free (by simp [has]), map_saved]
      rfl
    | some i =>
      by_cases taken : i ∈ r.byUniqueId
      · simp only [run, plan, edit?, has, r.add_taken has taken, if_pos taken]
        rfl
      · simp only [run, plan, edit?, has, if_neg taken]
        rw [r.add_free (by simpa [has] using taken), map_saved]
        rfl
  | update id u now =>
    cases held : r.get? id with
    | none =>
      simp only [run, plan, edit?, held, r.update_absent held]
      rfl
    | some old =>
      rcases applied : old.apply u now with ⟨e, changes⟩
      cases changes with
      | false =>
        simp only [run, plan, edit?, held, applied, r.update_unchanged held applied]
        rfl
      | true =>
        simp only [run, plan, edit?, held, applied, r.update_changed held applied]
        rfl
  | remove id =>
    cases held : r.get? id with
    | none =>
      simp only [run, plan, edit?, held, r.remove_absent held]
      rfl
    | some e =>
      simp only [run, plan, edit?, held]
      rw [r.remove_held held, map_saved]
      rfl

theorem edit?_of_plan_error {c : Catalog} {m : Mutation} {e : RegistryError}
    (refused : m.plan c = .error e) : m.edit? c = .error e := by
  unfold plan at refused
  cases decides : m.edit? c with
  | error e' =>
    rw [decides] at refused
    cases refused
    rfl
  | ok a =>
    rw [decides] at refused
    cases refused

theorem edit?_of_plan {c planned : Catalog} {m : Mutation} (plans : m.plan c = .ok (some planned)) :
    ∃ a, m.edit? c = .ok (some a) ∧ a.apply c = planned := by
  unfold plan at plans
  cases decides : m.edit? c with
  | error e =>
    rw [decides] at plans
    cases plans
  | ok a? =>
    rw [decides] at plans
    obtain ⟨a, rfl, made⟩ := Option.map_eq_some_iff.mp (Except.ok.inj plans)
    exact ⟨a, rfl, made⟩

/-- A call is refused for what is registered, never for the storage. -/
theorem plan_error {c : Catalog} {m : Mutation} {e : RegistryError} (refused : m.plan c = .error e)
    (x : StorageError) : e ≠ .storage x := by
  rintro rfl
  have refused := edit?_of_plan_error refused
  unfold edit? at refused
  split at refused
  · split at refused
    · cases refused
    · split at refused <;> cases refused
  · split at refused
    · cases refused
    · split at refused <;> cases refused
  · split at refused <;> cases refused

/-- What a call decides on, by what the catalog holds. -/
inductive Decides (c : Catalog) : Mutation → Edit → Prop where
  | add {e : Entry} (free : ∀ i, e.identity? = some i → i ∉ c.byUniqueId) :
    Decides c (.add e) (.restore e)
  | update {id : String} {u : Entry.Update} {now : Instant} {old e : Entry}
    (held : c.get? id = some old) (changed : old.apply u now = (e, true)) :
    Decides c (.update id u now) (.amend id old e)
  | remove {id : String} {e : Entry} (held : c.get? id = some e) :
    Decides c (.remove id) (.discard e)

theorem decides_of_edit? {c : Catalog} {m : Mutation} {a : Edit}
    (decides : m.edit? c = .ok (some a)) : m.Decides c a := by
  unfold edit? at decides
  split at decides
  · split at decides
    · rename_i lacks
      cases decides
      exact .add fun i has => by simp [lacks] at has
    split at decides
    · cases decides
    · rename_i i has free
      cases decides
      refine .add fun j has' => ?_
      cases has.symm.trans has'
      exact free
  · split at decides
    · cases decides
    rename_i held
    split at decides
    · cases decides
    · rename_i changed
      cases decides
      exact .update held changed
  · split at decides
    · cases decides
    · rename_i held
      cases decides
      exact .remove held

/-- The catalog that a call makes of another one. -/
def Step (c : Catalog) (m : Mutation) (planned : Catalog) : Prop :=
  ∃ a, m.Decides c a ∧ a.apply c = planned

theorem plan_step {c planned : Catalog} {m : Mutation} (plans : m.plan c = .ok (some planned)) :
    m.Step c planned := by
  obtain ⟨a, decides, made⟩ := edit?_of_plan plans
  exact ⟨a, decides_of_edit? decides, made⟩

namespace Step

variable {c planned : Catalog} {m : Mutation}

theorem filed (step : m.Step c planned) (filed : c.Filed) : planned.Filed := by
  obtain ⟨a, decides, rfl⟩ := step
  cases decides with
  | add free => exact filed.restore _
  | update held changed => exact filed.amend _ _ _
  | remove held => exact filed.discard _

theorem indexed (step : m.Step c planned) (indexed : c.Indexed)
    (fresh : ∀ e, m = .add e → c.get? e.id = none) : planned.Indexed := by
  obtain ⟨a, decides, rfl⟩ := step
  cases decides with
  | add free => exact indexed.restore (fresh _ rfl)
  | update held changed =>
    obtain ⟨here, domain⟩ := Entry.apply_changed changed
    obtain rfl := here.trans (indexed.filed _ _ held)
    exact indexed.amend held domain
  | remove held =>
    obtain rfl := indexed.filed _ _ held
    exact indexed.discard held

/-- Where every entry was found under its unique id, it still is unless two share one now. -/
theorem found (step : m.Step c planned) (filed : c.Filed) (found : c.Found)
    (unique : planned.Unique) : planned.Found := by
  obtain ⟨a, decides, rfl⟩ := step
  cases decides with
  | @add e free =>
    refine found.restore fun id f i held has has' => ?_
    have row := found id f i held has'
    exact absurd (Std.ExtTreeMap.mem_iff_isSome_getElem?.mpr (by simp [row])) (free i has)
  | @update id u now old e held changed =>
    obtain rfl := (Entry.apply_changed changed).1.trans (filed _ _ held)
    refine found.amend held fun id f i held' has has' => ?_
    by_cases here : e.id = id
    · exact here
    · exact unique e.id id e f i (by simp [Edit.apply]) (by simp [Edit.apply, here, held']) has has'
  | @remove id e held =>
    obtain rfl := filed _ _ held
    exact found.discard held

/-- An entry is there because it was before, or was added, or is the update of one that was. -/
theorem origin (step : m.Step c planned) (filed : c.Filed) {id : String} {e : Entry}
    (held : planned.get? id = some e) :
    m = .add e ∨ ∃ old, c.get? id = some old ∧
      (e = old ∨ ∃ u now, m = .update id u now ∧ old.apply u now = (e, true)) := by
  obtain ⟨a, decides, rfl⟩ := step
  cases decides with
  | @add added free =>
    rw [Edit.apply, Catalog.get?_restore] at held
    split at held
    · cases held
      exact .inl rfl
    · exact .inr ⟨e, held, .inl rfl⟩
  | @update here u now old changed before changes =>
    obtain rfl := (Entry.apply_changed changes).1.trans (filed _ _ before)
    rw [Edit.apply, Catalog.get?_amend] at held
    split at held
    · rename_i same
      cases held
      subst same
      exact .inr ⟨old, before, .inr ⟨u, now, rfl, changes⟩⟩
    · exact .inr ⟨e, held, .inl rfl⟩
  | @remove here removed before =>
    rw [Edit.apply, Catalog.get?_discard] at held
    split at held
    · cases held
    · exact .inr ⟨e, held, .inl rfl⟩

/-- No id comes in but that of an entry that is added. -/
theorem held_before (step : m.Step c planned) (filed : c.Filed) {id : String}
    (held : planned.get? id ≠ none) : c.get? id ≠ none ∨ ∃ e, m = .add e ∧ e.id = id := by
  obtain ⟨e, held⟩ := Option.ne_none_iff_exists'.mp held
  rcases step.origin filed held with rfl | ⟨old, before, _⟩
  · exact .inr ⟨e, rfl, step.filed filed id e held⟩
  · exact .inl (by simp [before])

end Step

end Mutation

end Registry

end Onboarding
