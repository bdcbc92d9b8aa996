import Onboarding.Proofs.Job.Protocol
import Onboarding.Proofs.Registry.Regular

/-! What setups, unloads and reloads write, and on what grounds. Each write moves the entry that the
errand is for from one phase to the next and leaves the rest of the registry as it finds it. An
entry becomes loaded only on the word of the integration of its domain, or where there is none to
ask. For that the entry that was shown to the integration has to be the one in setup still, which
the errand counts on while it waits. The word is entered for that entry as it is by then. -/
namespace Onboarding

/-- What the word of its integration makes of an entry in setup. -/
def Entry.answered (e : Entry) : Verdict → Entry
  | .ready => { e with phase := .loaded, reason := none }
  | .failed reason => { e with phase := .setupError, reason := some reason }
  | .crashed _ => e

namespace Registry

variable {r s : Registry}

namespace Errand

/-- The entry that the errand is for. -/
def id : Errand → String
  | setUp id => id
  | unload id => id
  | reload id => id

/-- Whether the errand sets its entry up. -/
def setsUp : Errand → Bool
  | setUp _ => true
  | unload _ => false
  | reload _ => true

def unloads : Errand → Bool
  | setUp _ => false
  | unload _ => true
  | reload _ => true

/-- The grounds on which an errand moves its entry to a phase, with what it heard last. -/
inductive Grounds (a : Errand) (heard : List (Heard Registry .hosting)) (r : Registry)
    (old : Entry) : Phase → Option String → Prop where
  | begins (setsUp : a.setsUp = true) (enabled : old.disabledBy = none) :
    Grounds a heard r old .setupInProgress none
  | ready (setsUp : a.setsUp = true) {asked : Entry} (here : asked.id = old.id)
    (same : asked.domain = old.domain)
    (answered : heard.getLast? = some ⟨.setUp asked, .ready, r⟩) :
    Grounds a heard r old .loaded none
  | unhandled (setsUp : a.setsUp = true) (free : old.domain ∉ r.handled) :
    Grounds a heard r old .loaded none
  | failed (setsUp : a.setsUp = true) {asked : Entry} {reason : String} (here : asked.id = old.id)
    (same : asked.domain = old.domain)
    (answered : heard.getLast? = some ⟨.setUp asked, .failed reason, r⟩) :
    Grounds a heard r old .setupError (some reason)
  | unloading (unloads : a.unloads = true) : Grounds a heard r old .unloadInProgress none
  | unloaded (unloads : a.unloads = true) : Grounds a heard r old .notLoaded none

/-- What an errand may write: that it takes or gives back the turn, or that its entry moves on. -/
inductive Writes (a : Errand) (heard : List (Heard Registry .hosting)) (r : Registry) :
    Registry → Prop where
  | turn (busy : Bool) : Writes a heard r { r with settingUp := busy }
  | phase {old : Entry} {target : Phase} {reason : Option String} (held : r.get? a.id = some old)
    (leads : old.phase.leadsTo target = true) (grounds : a.Grounds heard r old target reason) :
    Writes a heard r { r with toCatalog := r.revise { old with phase := target, reason } }

theorem leadsTo_loaded (p : Phase) : p.leadsTo .loaded = true ↔ p = .setupInProgress := by
  cases p <;> decide

theorem leadsTo_setupError (p : Phase) : p.leadsTo .setupError = true ↔ p = .setupInProgress := by
  cases p <;> decide

variable {a : Errand} {heard : List (Heard Registry .hosting)} {old : Entry} {target : Phase}
  {reason : Option String}

theorem Grounds.regular (grounds : a.Grounds heard r old target reason)
    (leads : old.phase.leadsTo target = true) (regular : old.Regular) :
    Entry.Regular { old with phase := target, reason } := by
  cases grounds with
  | begins setsUp enabled => constructor <;> simp [enabled]
  | ready setsUp here same answered =>
    have enabled := regular.enabled ((leadsTo_loaded _).mp leads)
    constructor <;> simp [enabled]
  | unhandled setsUp free =>
    have enabled := regular.enabled ((leadsTo_loaded _).mp leads)
    constructor <;> simp [enabled]
  | failed setsUp here same answered =>
    have enabled := regular.enabled ((leadsTo_setupError _).mp leads)
    constructor <;> simp [enabled]
  | unloading => constructor <;> simp
  | unloaded => constructor <;> simp

theorem Writes.regular (writes : a.Writes heard r s) (regular : r.Regular) :
    s.toCatalog.Regular := by
  cases writes with
  | turn busy => exact regular
  | @phase old target reason held leads grounds =>
    refine ⟨regular.filed.revise _, fun id e held' => ?_⟩
    rw [Catalog.get?_revise] at held'
    split at held'
    · cases held'
      exact grounds.regular leads (regular.entries a.id old held)
    · exact regular.entries id e held'

/-- No integration has given its word just now. -/
def Unanswered (heard : List (Heard Registry .hosting)) : Prop :=
  ∀ asked verdict t, heard.getLast? ≠ some ⟨.setUp asked, verdict, t⟩

/-- The word that was heard last has been entered, if its entry was in setup when it came. -/
def Entered (heard : List (Heard Registry .hosting)) (s : Registry) : Prop :=
  ∀ asked verdict t e, heard.getLast? = some ⟨.setUp asked, verdict, t⟩ →
    t.get? asked.id = some e → e.phase = .setupInProgress →
      s.get? asked.id = some (e.answered verdict)

theorem Unanswered.entered (unanswered : Unanswered heard) (s : Registry) : Entered heard s :=
  fun asked verdict t _ last => absurd last (unanswered asked verdict t)

theorem entered_concat {asked : Entry} {verdict : Verdict} {t : Registry}
    (enters : ∀ e, t.get? asked.id = some e → e.phase = .setupInProgress →
      s.get? asked.id = some (e.answered verdict)) :
    Entered (heard ++ [⟨.setUp asked, verdict, t⟩]) s := by
  intro asked verdict t e last
  rw [List.getLast?_concat] at last
  cases last
  exact enters e

/-- What an errand owes. It asks only for the entry that it has just put in setup, and counts on
that entry being the one in setup still when there is an answer. -/
def bounds (a : Errand) : Protocol Registry .hosting where
  finds
    | .setUp asked, _, _, t => t.Regular ∧ t.Awaits asked
    | .awaitTurn, _, _, _ => True
  writes heard s t := a.Writes heard s t
  waits
    | heard, .setUp asked, s => Unanswered heard ∧ s.settingUp = true ∧ a.setsUp = true ∧
      asked.id = a.id ∧ asked.disabledBy = none ∧ asked.phase.leadsTo .setupInProgress = true ∧
      s.get? a.id = some { asked with phase := .setupInProgress, reason := none }
    | _, .awaitTurn, _ => False

end Errand

namespace Action

variable {α : Type} {a : Errand} {heard : List (Heard Registry .hosting)} {target : Phase}
  {reason : Option String} {f : Unit → Action α}

/-- The action keeps to what the errand owes, and ends with the word entered that it has heard. -/
def Keeps (b : Action α) (a : Errand) (heard : List (Heard Registry .hosting)) (r : Registry) :
    Prop := b.run.Obeys a.bounds (fun heard _ s => Errand.Entered heard s) heard r

theorem keeps_enter_bind
    (grounds : ∀ old, r.get? a.id = some old → old.phase.leadsTo target = true →
      a.Grounds heard r old target reason)
    (stays : (∀ old, r.get? a.id = some old → old.phase.leadsTo target = false) →
      Errand.Entered heard r)
    (entered : ∀ old, r.get? a.id = some old → old.phase.leadsTo target = true →
      (f ()).Keeps a heard { r with toCatalog := r.revise { old with phase := target, reason } }) :
    (enter a.id target reason >>= f).Keeps a heard r := by
  rw [Keeps, enter, bind_assoc, Job.obeys_run_get_bind]
  cases held : r.get? a.id with
  | none =>
    have result : r.enter a.id target reason = .error (.notFound a.id) := by
      simp [Registry.enter, held]
    rw [result]
    refine stays fun old held' => ?_
    cases held.symm.trans held'
  | some old =>
    cases leads : old.phase.leadsTo target with
    | false =>
      have result : r.enter a.id target reason = .error (.refused ⟨old.phase, target⟩) := by
        simp [Registry.enter, held, Entry.enter, Phase.move, leads]
      rw [result]
      refine stays fun old held' => ?_
      cases held.symm.trans held'
      exact leads
    | true =>
      have result : r.enter a.id target reason =
          .ok { r with toCatalog := r.revise { old with phase := target, reason } } := by
        simp [Registry.enter, held, Entry.enter, Phase.move, leads]
      rw [result]
      exact ⟨.phase held leads (grounds old held leads), entered old held leads⟩

theorem keeps_enter
    (grounds : ∀ old, r.get? a.id = some old → old.phase.leadsTo target = true →
      a.Grounds heard r old target reason)
    (stays : (∀ old, r.get? a.id = some old → old.phase.leadsTo target = false) →
      Errand.Entered heard r)
    (entered : ∀ old, r.get? a.id = some old → old.phase.leadsTo target = true →
      Errand.Entered heard { r with toCatalog := r.revise { old with phase := target, reason } }) :
    (enter a.id target reason).Keeps a heard r := by
  rw [← bind_pure (enter a.id target reason)]
  exact keeps_enter_bind grounds stays entered

/-- A word that makes an entry move is entered for the entry that is there when it comes. -/
theorem keeps_answer {asked : Entry} {verdict : Verdict} (here : asked.id = a.id)
    (regular : r.Regular) (awaits : r.Awaits asked)
    (moves : ∀ e : Entry, e.answered verdict = { e with phase := target, reason })
    (leads : ∀ p : Phase, p.leadsTo target = true ↔ p = .setupInProgress)
    (grounds : ∀ old : Entry, asked.id = old.id → asked.domain = old.domain →
      a.Grounds (heard ++ [⟨.setUp asked, verdict, r⟩]) r old target reason)
    (ends : ∀ s, Errand.Entered (heard ++ [⟨.setUp asked, verdict, r⟩]) s →
      (f ()).Keeps a (heard ++ [⟨.setUp asked, verdict, r⟩]) s) :
    (enter a.id target reason >>= f).Keeps a (heard ++ [⟨.setUp asked, verdict, r⟩]) r := by
  have filed (old : Entry) (held : r.get? a.id = some old) : asked.id = old.id :=
    here.trans (regular.filed _ _ held).symm
  refine keeps_enter_bind (fun old held inSetup => ?_) (fun refused => ?_)
    fun old held _ => ends _ ?_
  · have same := awaits old (here ▸ held) ((leads _).mp inSetup)
    exact grounds old (filed old held) same.symm
  · refine Errand.entered_concat fun e held inSetup => ?_
    rw [here] at held
    cases (refused e held).symm.trans ((leads _).mpr inSetup)
  · refine Errand.entered_concat fun e held' _ => ?_
    cases held.symm.trans (here ▸ held')
    rw [Catalog.get?_revise, if_pos (filed old held).symm, moves]

/-- A setup moves its entry on the word of the integration that it asked, since the entry that is in
setup when the word comes is of that integration. -/
theorem keeps_setUpNow (unanswered : Errand.Unanswered heard) (setsUp : a.setsUp = true)
    (busy : r.settingUp = true) (regular : r.Regular) : (setUpNow a.id).Keeps a heard r := by
  rw [Keeps, setUpNow, Job.obeys_run_get_bind]
  cases held : r.get? a.id with
  | none => exact unanswered.entered r
  | some e =>
  dsimp only
  split
  · exact unanswered.entered r
  rename_i enabled
  have enabled : e.disabledBy = none := by simpa [Entry.isDisabled] using enabled
  have here : e.id = a.id := regular.filed _ _ held
  refine keeps_enter_bind (fun old before _ => ?_) (fun _ => unanswered.entered r)
    fun old before leads => ?_
  · cases held.symm.trans before
    exact .begins setsUp enabled
  cases held.symm.trans before
  change (if e.domain ∈ r.handled then _ else _ : Action Unit).Keeps a heard _
  split
  · refine ⟨⟨unanswered, busy, setsUp, here, enabled, leads, by simp [here]⟩, ?_⟩
    rintro verdict t ⟨regular, awaits⟩
    cases verdict with
    | ready =>
      change (enter a.id .loaded none).Keeps a _ t
      rw [← bind_pure (enter a.id .loaded none)]
      refine keeps_answer here regular awaits (fun _ => rfl) Errand.leadsTo_loaded
        (fun old here same => ?_) fun s entered => entered
      exact .ready setsUp here same List.getLast?_concat
    | failed reason =>
      refine keeps_answer here regular awaits (fun _ => rfl) Errand.leadsTo_setupError
        (fun old here same => ?_) fun s entered => entered
      exact .failed setsUp here same List.getLast?_concat
    | crashed x => exact Errand.entered_concat fun e held _ => held
  · rename_i free
    refine keeps_enter (fun old held leads => .unhandled setsUp ?_)
      (fun _ => unanswered.entered _) fun _ _ _ => unanswered.entered _
    simp only [Catalog.get?_revise, if_pos here, Option.some.injEq] at held
    exact held ▸ free

theorem keeps_unloadNow_bind (unanswered : Errand.Unanswered heard) (unloads : a.unloads = true)
    (regular : r.Regular)
    (unloaded : ∀ s : Registry, s.settingUp = r.settingUp → s.Regular → (f ()).Keeps a heard s) :
    (unloadNow a.id >>= f).Keeps a heard r := by
  unfold unloadNow
  rw [bind_assoc]
  refine keeps_enter_bind (fun _ _ _ => .unloading unloads) (fun _ => unanswered.entered _)
    fun old held leads => ?_
  have unloading : a.Writes heard r _ := .phase held leads (.unloading unloads)
  have between := unloading.regular regular
  refine keeps_enter_bind (fun _ _ _ => .unloaded unloads) (fun _ => unanswered.entered _)
    fun old held leads => ?_
  have done : a.Writes heard _ _ := .phase held leads (.unloaded unloads)
  exact unloaded _ rfl (done.regular between)

end Action

namespace Errand

/-- What an errand is about, once it has the turn. -/
def act : Errand → Action Unit
  | setUp id => Action.setUpNow id
  | unload id => Action.unloadNow id
  | reload id => do
    Action.unloadNow id
    Action.setUpNow id

theorem action_eq (a : Errand) : a.action = Action.inTurn a.act := by
  cases a <;> rfl

/-- What an errand does in its turn. -/
def turn (a : Errand) : Job Registry .hosting (Except RegistryError Unit) := do
  modify ({ · with settingUp := true })
  a.act.run.closing (modify ({ · with settingUp := false }))

theorem keeps_act (a : Errand) (unanswered : Unanswered heard) (busy : r.settingUp = true)
    (regular : r.Regular) : a.act.Keeps a heard r := by
  cases a with
  | setUp id => exact Action.keeps_setUpNow (a := .setUp id) unanswered rfl busy regular
  | unload id =>
    change (Action.unloadNow id).Keeps (.unload id) heard r
    rw [← bind_pure (Action.unloadNow id)]
    exact Action.keeps_unloadNow_bind (a := .unload id) unanswered rfl regular
      fun s _ _ => unanswered.entered s
  | reload id =>
    refine Action.keeps_unloadNow_bind (a := .reload id) unanswered rfl regular
      fun s same regular => ?_
    exact Action.keeps_setUpNow (a := .reload id) unanswered rfl (same.trans busy) regular

theorem obeys_turn (a : Errand) (unanswered : Unanswered heard) (regular : r.Regular) :
    a.turn.Obeys a.bounds (fun heard _ s => Entered heard s) heard r := by
  refine ⟨.turn true, Job.obeys_closing.mpr ?_⟩
  have taken : ({ r with settingUp := true } : Registry).Regular := regular
  refine Job.obeys_imp (fun heard e t entered => ⟨.turn false, ?_⟩)
    (a.keeps_act unanswered rfl taken)
  cases e <;> exact entered

end Errand

end Registry

end Onboarding
