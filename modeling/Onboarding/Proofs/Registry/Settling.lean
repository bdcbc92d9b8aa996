import Onboarding.Proofs.Job.Ensures
import Onboarding.Proofs.Registry.Course

/-! Entries that are left in the middle of a setup. An errand settles its entry again by the time
it has ended, whatever else was done to the registry while it waited: a setup that fails is
entered like one that succeeds. Only a crash of the integration is not: it ends the errand and
leaves the entry in progress, where no errand can move it. -/
namespace Onboarding

theorem Entry.enter_ok {old e : Entry} {target : Phase} {reason : Option String}
    (led : old.enter target reason = .ok e) :
    old.phase.leadsTo target = true ∧ e = { old with phase := target, reason } := by
  unfold enter Phase.move at led
  by_cases leads : old.phase.leadsTo target = true
  · rw [if_pos leads] at led
    cases led
    exact ⟨leads, rfl⟩
  · rw [if_neg leads] at led
    cases led

/-- Whether the integration of the entry of an id is asked to set it up. -/
def Hosting.asks : Hosting → String → Prop
  | .setUp e, id => e.id = id
  | .awaitTurn, _ => False

/-- Whether the answer is that the integration crashed. -/
def Hosting.Crashes : (q : Hosting) → q.Reply → Prop
  | .setUp _, verdict => ∃ x, verdict = .crashed x
  | .awaitTurn, _ => False

namespace Registry

/-- The entry of the id, if there is one, is settled or in a setup that is accounted for. -/
def RestsAt (r : Registry) (accounted : String → Prop) (id : String) : Prop :=
  ∀ e, r.get? id = some e →
    e.phase.settled = true ∨ e.phase = .setupInProgress ∧ accounted id

structure Rests (r : Registry) (accounted : String → Prop) : Prop where
  filed : r.Filed
  entries : ∀ id, r.RestsAt accounted id

def InSetup (r : Registry) (id : String) : Prop :=
  ∃ e, r.get? id = some e ∧ e.phase = .setupInProgress

variable {r s : Registry} {A B : String → Prop} {id : String} {target : Phase}
  {reason : Option String}

theorem enter_get? (filed : r.Filed) (entered : r.enter id target reason = .ok s) :
    ∃ old, r.get? id = some old ∧ old.phase.leadsTo target = true ∧ s.Filed ∧
      s.handled = r.handled ∧ s.settingUp = r.settingUp ∧
      ∀ other, s.get? other =
        if id = other then some { old with phase := target, reason } else r.get? other := by
  unfold Registry.enter at entered
  split at entered
  · cases entered
  · rename_i old held
    split at entered
    · rename_i e led
      cases entered
      obtain ⟨leads, rfl⟩ := Entry.enter_ok led
      have here : old.id = id := filed id old held
      refine ⟨old, held, leads, filed.revise _, rfl, rfl, fun other => ?_⟩
      rw [Catalog.get?_revise, here]
    · cases entered

theorem rests_enter (filed : r.Filed) (others : ∀ other, id ≠ other → r.RestsAt A other)
    (entered : r.enter id target reason = .ok s)
    (lands : target.settled = true ∨ target = .setupInProgress ∧ A id) : s.Rests A := by
  obtain ⟨old, _, _, filedAfter, _, _, get?⟩ := enter_get? filed entered
  refine ⟨filedAfter, fun other e held => ?_⟩
  rw [get?] at held
  split at held
  · rename_i here
    cases held
    exact here ▸ lands
  · rename_i elsewhere
    exact others other elsewhere e held

theorem enter_of_leads {old : Entry} (target : Phase) (reason : Option String)
    (held : r.get? id = some old) (leads : old.phase.leadsTo target = true) :
    ∃ s, r.enter id target reason = .ok s := by
  simp [Registry.enter, held, Entry.enter, Phase.move, leads]

theorem Rests.weaken (rests : r.Rests A) (weaker : ∀ other, A other → B other) : r.Rests B :=
  ⟨rests.filed, fun other e held =>
    (rests.entries other e held).imp_right fun ⟨phase, accounted⟩ => ⟨phase, weaker _ accounted⟩⟩

variable {α β : Type}

/-- The job ends in a crash, and leaves all entries as they are. -/
def Abandons (j : Job Registry .hosting α) : Prop :=
  ∀ r, ∃ x s, j.advance r = (.crashed x, s) ∧ s.toCatalog = r.toCatalog

theorem Abandons.bind {j : Job Registry .hosting α} (abandons : Abandons j)
    (f : α → Job Registry .hosting β) : Abandons (j >>= f) := fun r =>
  have ⟨x, s, crashes, same⟩ := abandons r
  ⟨x, s, by rw [Job.advance_bind, crashes], same⟩

/-- The job ends at once, and leaves all entries as they are. -/
def Tidies (last : Job Registry .hosting Unit) : Prop :=
  ∀ r, ∃ s, last.advance r = (.done (), s) ∧ s.toCatalog = r.toCatalog

theorem Abandons.closing {j : Job Registry .hosting α} (abandons : Abandons j)
    {last : Job Registry .hosting Unit} (tidies : Tidies last) : Abandons (j.closing last) := by
  intro r
  obtain ⟨x, s, crashes, same⟩ := abandons r
  obtain ⟨t, ends, tidy⟩ := tidies s
  refine ⟨x, t, ?_, tidy.trans same⟩
  rw [Job.advance_closing, crashes]
  change Job.advance (last >>= fun _ => .crash x) s = _
  rw [Job.advance_bind, ends]
  rfl

/-- Wherever the job comes to rest, every setup that it leaves in progress is accounted for, or is
the one that it waits for. It settles the entry that it waits for as soon as there is an answer and
no crash, whatever else was done meanwhile. -/
def Mends (A : String → Prop) : Job Registry .hosting α → Registry → Prop
  | .done _, r => r.Rests A
  | .crash _, r => r.Rests A
  | .ask .read next, r => Mends A (next r) r
  | .ask (.write s) next, _ => Mends A (next ()) s
  | .ask (.outside q) next, r => (r.Rests fun id => A id ∨ q.asks id) ∧ ∀ answer,
    (q.Crashes answer → Abandons (next answer)) ∧
      (¬ q.Crashes answer → ∀ s, (s.Rests fun _ => True) →
        Mends (fun id => s.InSetup id ∧ ¬ q.asks id) (next answer) s)

theorem mends_bind {j : Job Registry .hosting α} {f : α → Job Registry .hosting β}
    (first : Mends A j r) (others : ∀ a A s, s.Rests A → Mends A (f a) s) :
    Mends A (j >>= f) r := by
  induction j generalizing A r with
  | done a => exact others a A r first
  | crash => exact first
  | ask q next ih =>
    match q with
    | .read => exact ih r first
    | .write s => exact ih () first
    | .outside q =>
      exact ⟨first.1, fun answer => ⟨fun crashes => ((first.2 answer).1 crashes).bind f,
        fun calm s rests => ih answer ((first.2 answer).2 calm s rests)⟩⟩

theorem mends_closing {j : Job Registry .hosting α} {last : Job Registry .hosting Unit}
    (first : Mends A j r) (tidies : Tidies last)
    (closes : ∀ A s, s.Rests A → Mends A last s) :
    Mends A (j.closing last) r := by
  induction j generalizing A r with
  | done => exact mends_bind (closes A r first) fun _ _ _ rests => rests
  | crash => exact mends_bind (closes A r first) fun _ _ _ rests => rests
  | ask q next ih =>
    match q with
    | .read => exact ih r first
    | .write s => exact ih () first
    | .outside q =>
      exact ⟨first.1, fun answer => ⟨fun crashes => ((first.2 answer).1 crashes).closing tidies,
        fun calm s rests => ih answer ((first.2 answer).2 calm s rests)⟩⟩

namespace Action

theorem mends_run_get_bind {f : Registry → Action α} :
    Mends A (get >>= f : Action α).run r ↔ Mends A (f r).run r := Iff.rfl

theorem mends_enter_bind {f : Unit → Action α}
    (refused : ∀ e, r.enter id target reason = .error e → r.Rests A)
    (entered : ∀ s, r.enter id target reason = .ok s → Mends A (f ()).run s) :
    Mends A (enter id target reason >>= f).run r := by
  rw [enter, bind_assoc, mends_run_get_bind]
  cases outcome : r.enter id target reason with
  | error e => exact refused e outcome
  | ok s => exact entered s outcome

theorem mends_enter (refused : ∀ e, r.enter id target reason = .error e → r.Rests A)
    (entered : ∀ s, r.enter id target reason = .ok s → s.Rests A) :
    Mends A (enter id target reason).run r := by
  rw [← bind_pure (enter id target reason)]
  exact mends_enter_bind refused entered

/-- An entry that has been waited for is settled by a phase that a setup leads to: if it is in a
setup it gets there, and if it is not it rests as it is. -/
theorem mends_answer {f : Unit → Action Unit} (rests : r.Rests fun _ => True)
    (leads : Phase.setupInProgress.leadsTo target = true) (settled : target.settled = true)
    (ends : ∀ A s, s.Rests A → Mends A (f ()).run s) :
    Mends (fun other => r.InSetup other ∧ ¬ id = other) (enter id target reason >>= f).run r := by
  have elsewhere : ∀ other, id ≠ other →
      r.RestsAt (fun other => r.InSetup other ∧ ¬ id = other) other := by
    intro other apart e held
    rcases rests.entries other e held with settled | ⟨phase, _⟩
    · exact .inl settled
    · exact .inr ⟨phase, ⟨e, held, phase⟩, apart⟩
  refine mends_enter_bind (fun x refused => ⟨rests.filed, fun other => ?_⟩) fun s entered => ?_
  · by_cases here : id = other
    · subst here
      intro e held
      refine .inl ((rests.entries id e held).elim (fun settled => settled) fun ⟨phase, _⟩ => ?_)
      obtain ⟨s, entered⟩ := enter_of_leads target reason held (phase ▸ leads)
      cases refused.symm.trans entered
    · exact elsewhere other here
  · exact ends _ s (rests_enter rests.filed elsewhere entered (.inl settled))

theorem mends_setUpNow (id : String) (rests : r.Rests A) : Mends A (setUpNow id).run r := by
  rw [setUpNow, mends_run_get_bind]
  cases held : r.get? id with
  | none => exact rests
  | some e =>
    dsimp only
    split
    · exact rests
    have here : e.id = id := rests.filed id e held
    refine mends_enter_bind (fun _ _ => rests) fun s entered => ?_
    obtain ⟨old, _, _, filed, _, _, get?⟩ := enter_get? rests.filed entered
    have asking : s.Rests fun other => A other ∨ e.id = other :=
      rests_enter rests.filed (fun other _ => (rests.weaken fun _ => .inl).entries other) entered
        (.inr ⟨rfl, .inr here⟩)
    change Mends A (if e.domain ∈ s.handled then _ else _ : Action Unit).run s
    split
    · subst here
      refine ⟨asking, fun verdict => ⟨?_, fun calm t rests => ?_⟩⟩
      · rintro ⟨x, rfl⟩ t
        exact ⟨x, t, rfl, rfl⟩
      cases verdict with
      | ready =>
        change Mends _ (enter e.id .loaded none).run t
        rw [← bind_pure (enter e.id .loaded none)]
        exact mends_answer rests rfl rfl fun _ _ rests => rests
      | failed reason => exact mends_answer rests rfl rfl fun _ _ rests => rests
      | crashed x => exact absurd ⟨x, rfl⟩ calm
    · have now : s.get? id = some { old with phase := .setupInProgress, reason := none } := by
        rw [get?, if_pos rfl]
      refine mends_enter (fun x refused => ?_) fun t loaded => ?_
      · obtain ⟨t, loaded⟩ := enter_of_leads .loaded none now rfl
        cases refused.symm.trans loaded
      · refine rests_enter filed (fun other apart => ?_) loaded (.inl rfl)
        intro f heldAfter
        rw [get?, if_neg apart] at heldAfter
        exact rests.entries other f heldAfter

theorem mends_unloadNow (id : String) (rests : r.Rests A) : Mends A (unloadNow id).run r := by
  refine mends_enter_bind (fun _ _ => rests) fun s entered => ?_
  obtain ⟨old, _, _, filed, _, _, get?⟩ := enter_get? rests.filed entered
  have now : s.get? id = some { old with phase := .unloadInProgress, reason := none } := by
    rw [get?, if_pos rfl]
  refine mends_enter (fun x refused => ?_) fun t unloaded => ?_
  · obtain ⟨t, unloaded⟩ := enter_of_leads .notLoaded none now rfl
    cases refused.symm.trans unloaded
  · refine rests_enter filed (fun other apart => ?_) unloaded (.inl rfl)
    intro f heldAfter
    rw [get?, if_neg apart] at heldAfter
    exact rests.entries other f heldAfter

theorem mends_inTurn {a : Action α} (acts : ∀ A s, s.Rests A → Mends A a.run s)
    (rests : r.Rests A) : Mends A (inTurn a).run r := by
  have rest (A : String → Prop) (s : Registry) (rests : s.Rests A) :
      Mends A (a.run.closing (modify ({ · with settingUp := false })))
        { s with settingUp := true } :=
    mends_closing (acts A _ ⟨rests.filed, rests.entries⟩) (fun s => ⟨_, rfl, rfl⟩)
      fun A s rests => ⟨rests.filed, rests.entries⟩
  change Mends A (if r.settingUp = true then _ else _ : Action _).run r
  split
  · refine ⟨rests.weaken fun _ => .inl, fun _ => ⟨False.elim, fun _ s rests => ?_⟩⟩
    refine rest _ s ⟨rests.filed, fun id e held => ?_⟩
    exact (rests.entries id e held).imp_right fun ⟨phase, _⟩ =>
      ⟨phase, ⟨e, held, phase⟩, fun asked => asked⟩
  · exact rest A r rests

end Action

theorem Errand.mends (errand : Errand) (rests : r.Rests A) : Mends A errand.action.run r := by
  cases errand with
  | setUp id => exact Action.mends_inTurn (fun _ _ => Action.mends_setUpNow id) rests
  | unload id => exact Action.mends_inTurn (fun _ _ => Action.mends_unloadNow id) rests
  | reload id =>
    refine Action.mends_inTurn (fun A s rests => ?_) rests
    rw [ExceptT.run_bind]
    refine mends_bind (Action.mends_unloadNow id rests) fun ended A s rests => ?_
    cases ended with
    | ok => exact Action.mends_setUpNow id rests
    | error e => exact rests

end Registry

end Onboarding
