import Onboarding.Proofs.Registry.Course

/-! Unique ids over whole courses of events. Adding an entry checks that its unique id is free,
updating one does not. So the entries stay unique exactly as long as no update gives an entry the
unique id of another one. -/
namespace Onboarding

theorem Entry.apply_uniqueId (old : Entry) (u : Entry.Update) (now : Instant) :
    (old.apply u now).1.uniqueId = u.uniqueId.getD old.uniqueId := by
  unfold apply
  split
  · rfl
  · rename_i unchanged
    cases given : u.uniqueId with
    | none => rfl
    | some uniqueId => simp_all [Update.changes]

theorem Entry.apply_domain (old : Entry) (u : Entry.Update) (now : Instant) :
    (old.apply u now).1.domain = old.domain := by
  unfold apply
  split <;> rfl

theorem Entry.apply_identity? (old : Entry) (u : Entry.Update) (now : Instant) :
    (old.apply u now).1.identity? = (u.uniqueId.getD old.uniqueId).map (⟨old.domain, ·⟩) := by
  rw [identity?, apply_uniqueId, apply_domain]

namespace Registry

/-- No update gives an entry a unique id that another entry of its domain holds. -/
def Spares (r : Registry) : Change → Prop
  | .mutate (.update id u _) =>
    ∀ old uniqueId, r.get? id = some old → u.uniqueId = some (some uniqueId) →
      ∀ other e, r.get? other = some e → e.identity? = some ⟨old.domain, uniqueId⟩ → other = id
  | _ => True

/-- Where no two entries share a unique id, an update that spares the others shares none. -/
theorem Spares.alone {r : Registry} {id : String} {u : Entry.Update} {now : Instant} {old : Entry}
    (spares : r.Spares (.mutate (.update id u now))) (unique : r.Unique)
    (held : r.get? id = some old) :
    ∀ other f i, r.get? other = some f → (old.apply u now).1.identity? = some i →
      f.identity? = some i → id = other := by
  intro other f i held' has has'
  rw [Entry.apply_identity?] at has
  cases given : u.uniqueId with
  | none =>
    rw [given] at has
    exact unique id other old f i held held' has has'
  | some uniqueId =>
    cases uniqueId with
    | none => simp [given] at has
    | some uniqueId =>
      obtain rfl : ⟨old.domain, uniqueId⟩ = i := by simpa [given] using has
      exact (spares old uniqueId held given other f held' has').symm

/-- An update that does not spare another entry leaves two entries with one unique id. -/
theorem spares_of_unique {r : Registry} {id : String} {u : Entry.Update} {now : Instant}
    (filed : r.Filed) (unique : r.Unique) (uniqueAfter : (r.update id u now).1.Unique) :
    r.Spares (.mutate (.update id u now)) := by
  intro old uniqueId held given other e held' has
  by_contra apart
  have shared : (old.apply u now).1.identity? = some ⟨old.domain, uniqueId⟩ := by
    simp [Entry.apply_identity?, given]
  rcases applied : old.apply u now with ⟨after, changes⟩
  rw [applied] at shared
  cases changes with
  | false =>
    rw [Entry.apply_unchanged applied] at shared
    exact apart (unique other id e old _ held' held has shared)
  | true =>
    rw [r.update_changed held applied, saved_fst] at uniqueAfter
    have here : after.id = id := by rw [(Entry.apply_changed applied).1, filed id old held]
    refine apart (uniqueAfter other id e after _ ?_ ?_ has shared)
    · simp [here, Ne.symm apart, held']
    · simp [here]

theorem upkeep_unique :
    Upkeep (fun c => c.Filed ∧ c.Found) Disk.Distinct Spares where
  step := by
    rintro r m c ⟨filed, found⟩ spares step
    refine ⟨step.filed filed, ?_⟩
    obtain ⟨a, decides, rfl⟩ := step
    cases decides with
    | @add e free =>
      refine found.restore fun id f i held has has' => ?_
      have row := found id f i held has'
      exact absurd (Std.ExtTreeMap.mem_iff_isSome_getElem?.mpr (by simp [row])) (free i has)
    | @update id u now old e held changed =>
      have alone := spares.alone found.unique held
      rw [changed] at alone
      obtain rfl := (Entry.apply_changed changed).1.trans (filed _ _ held)
      exact found.amend held alone
    | @remove id e held =>
      obtain rfl := filed id e held
      exact found.discard held
  phase := by
    rintro c id old e target reason ⟨filed, found⟩ held led
    obtain ⟨here, _, same, _⟩ := Entry.enter_same led
    obtain rfl := filed id old held
    exact ⟨filed.revise e, found.revise (here ▸ held) same⟩
  save := by
    rintro d c ⟨filed, found⟩ distinct
    unfold Disk.save
    split
    · exact Disk.distinct_holding filed found.unique rfl
    · exact distinct
  storage := fun distinct => distinct
  load := fun distinct loads =>
    ⟨Catalog.filed_empty.restoreAll, Catalog.found_empty.restoreAll (distinct _ _ loads)
      fun e _ id f i held => by simp [Catalog.get?] at held⟩
  empty := ⟨Catalog.filed_empty, Catalog.found_empty⟩

theorem Course.spares_of_unique {f : Course}
    (filed : f.Keeps (fun r => r.Filed ∧ True) fun _ _ => True) {events : List Event}
    (unique : ∀ r ∈ (f.after events).seen, r.Unique) : f.Throughout Spares events := by
  induction events generalizing f with
  | nil => trivial
  | cons event events ih =>
    have later := (f.happen event).seen_after events
    have now : f.state.Unique :=
      unique _ (((f.seen_happen event).trans later).subset (by simp [Floor.seen]))
    have next : (f.happen event).state.Unique := unique _ (later.subset (by simp [Floor.seen]))
    refine ⟨?_, ih (upkeep_filed.invariant.happen filed fun _ _ => trivial) unique⟩
    rintro c rfl
    cases c with
    | mutate m =>
      cases m with
      | update id u time => exact Registry.spares_of_unique filed.state.1 now next
      | _ => trivial
    | _ => trivial

/-- On every course from an empty registry without a file, the entries are unique at every moment
exactly if all updates on the way spare the other entries. -/
theorem unique_iff_spares (handled : Std.ExtTreeSet String) (events : List Event) :
    (∀ r ∈ ((Course.opened {} handled).after events).seen, r.Unique) ↔
      (Course.opened {} handled).Throughout Spares events := by
  constructor
  · exact Course.spares_of_unique (Floor.keeps_start ⟨Catalog.filed_empty, trivial⟩)
  · intro spares r seen
    -- uniqueness alone is not kept by an update: the rows of the unique ids have to be complete
    have kept := upkeep_unique.opened (Disk.distinct_none rfl) spares r seen
    exact kept.1.2.unique

/-- Two lamps of one domain, and the second is given the unique id of the first. -/
def lampA : Entry := { Entry.new "a" "light" "A" .epoch with uniqueId := some "x" }

theorem lampA_readsBack : lampA.ReadsBack Disk.room :=
  ⟨rfl, rfl, Instant.epoch_reread, Instant.epoch_reread⟩

def lampB : Entry := { Entry.new "b" "light" "B" .epoch with uniqueId := some "y" }

def takeover : List Event :=
  [.change (.mutate (.add lampA)), .change (.mutate (.add lampB)),
    .change (.mutate (.update "b" { uniqueId := some (some "x") } .epoch))]

theorem takeover_shares :
    (Course.opened {} ∅).Throughout Fresh takeover ∧
      ¬ ∀ r ∈ ((Course.opened {} ∅).after takeover).seen, r.Unique := by
  constructor
  · refine ⟨?_, ?_, ?_, trivial⟩ <;> rintro c ⟨⟩
    · rfl
    · rfl
    · trivial
  · intro unique
    have shared := unique _ (List.mem_cons_self ..) "a" "b" lampA
      { lampB with uniqueId := some "x" } ⟨"light", "x"⟩ rfl rfl rfl rfl
    exact absurd shared (by decide)

end Registry

end Onboarding
