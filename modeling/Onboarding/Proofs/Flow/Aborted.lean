import Onboarding.Camera.Onboard
import Onboarding.Proofs.Flow.Record

/-! Flows that are aborted. An abort takes a flow off the lists, so that no call finds it any more,
but it neither stops a call that is under way nor is looked for by it. What is still done for the
flow is done by such a call. -/
namespace Onboarding.Desk

open Job

variable {H : Type} {F : Signature} {d : Desk H}

/-- All that is still done and answered for a flow off the lists is done by certain jobs. -/
def leftTo (f : String) (under : Party (Option String) → Prop) :
    Contract (Option String) (Desk H) (.desk F) Answer where
  holds d := d.Numbered ∧ (∃ g, d.flows[f]? = some g) ∧ f ∉ d.listed
  later := Later
  writes p _ _ _ := p.agent = some f → under p
  ends p _ ended _ := ∀ r, ended = .ok (.flow (.ok r)) → r.flowId = f →
    p.agent = some f ∧ under p
  refl := Later.refl
  trans := Later.trans

variable {f : String} {under : Party (Option String) → Prop}

theorem leftTo_later {t : Desk H} (holds : (leftTo (F := F) f under).holds d) (numbered : t.Numbered)
    (later : Later d t) : (leftTo (F := F) f under).holds t := by
  obtain ⟨g, here⟩ := holds.2.1
  obtain ⟨h, there, _⟩ := later.flows f g here
  refine ⟨numbered, ⟨h, there⟩, fun listed => ?_⟩
  rcases later.listed f listed with before | new
  · exact holds.2.2 before
  · cases new.symm.trans here

/-- A job that names its flow leaves what is done for `f` to itself, if that is its flow. -/
theorem meets_leftTo {p : Party (Option String)} {j : Work H F Answer}
    {heard : List (Heard (Desk H) (.desk F))} (itself : p.agent = some f → under p)
    (holds : (leftTo (F := F) f under).holds d) (meets : named.Meets p j heard d) :
    (leftTo f under).Meets p j heard d := by
  refine ensures_mono (leftTo (F := F) f under).holds (fun q r s t holds found => ?_)
    (fun heard s t holds written => ?_) (fun heard ended t _ ends r answer here => ?_) holds meets
  · exact ⟨⟨trivial, found.2.1.1, found.2.2⟩, found.2.1⟩
  · have kept := leftTo_later holds written.1.1 written.1.2
    exact ⟨⟨⟨kept, written.1.2⟩, itself⟩, kept⟩
  · have agent : p.agent = some f := here ▸ ends r answer
    exact ⟨agent, itself agent⟩

theorem leftTo_put {t : Desk H} (holds : (leftTo (F := F) f under).holds d)
    (kept : t.Numbered ∧ Later d t) : (leftTo (F := F) f under).holds t ∧ Later d t :=
  ⟨leftTo_later holds kept.1 kept.2, kept.2⟩

/-- Nothing begins any more to be done for a flow off the lists: no start is given its id, and a
submit does not find it. -/
theorem serves_leftTo (steps : Steps H F) : Serves steps (leftTo f under) fun _ _ => True where
  change holds _ := leftTo_put holds ((serves_named steps).change holds.1 trivial)
  abort holds _ := leftTo_put holds ((serves_named steps).abort holds.1 trivial)
  issue holds _ := leftTo_put holds ((serves_named steps).issue holds.1 trivial)
  integrate holds _ := leftTo_put holds ((serves_named steps).integrate holds.1 trivial)
  time holds _ := leftTo_put holds ((serves_named steps).time holds.1 trivial)
  errand holds _ := meets_leftTo (by rintro ⟨⟩) holds (errand_meets_named _ holds.1)
  reply _ _ _ _ := trivial
  call {d c number} holds _ := by
    by_cases here : c.flow d = f
    · obtain ⟨g, there⟩ := holds.2.1
      have given : Issue.id d.issued ≠ f := by
        rintro rfl
        cases holds.1.fresh.symm.trans there
      cases c with
      | submit id input =>
        cases here
        exact ensures_bind.mpr (Action.ensures_unlisted holds.2.2 (by rintro r ⟨⟩))
      | _ => exact absurd here given
    · exact meets_leftTo (fun same => absurd (Option.some.inj same) here) holds
        (c.meets_named steps holds.1)

/-- Once a flow has been aborted it is not listed again, and all that is written for it, and every
answer that names it, is of a call on it that was under way by then: where there is no such call,
the flow has no further effect. -/
theorem aborted_leaves (steps : Steps H F) (handled : Std.ExtTreeSet String) (now : Instant)
    (events later : List (Event H F)) (f : String) :
    let c := (Record.opened handled now).after steps events
    (c.state.abort f).2 = .ok () →
      let r := Record.after steps (c.happen steps (.abort f)).turn later
      (∀ d ∈ r.seen, f ∉ d.listed) ∧
      (∀ deed ∈ r.deeds, deed.party.agent = some f → ∃ w ∈ c.pending, w.party = deed.party) ∧
      ∀ e ∈ r.ended, ∀ answer, e.ending = .ok (.flow (.ok answer)) → answer.flowId = f →
        e.party.agent = some f ∧ ∃ w ∈ c.pending, w.party = e.party := by
  intro c aborted r
  let under (p : Party (Option String)) : Prop := ∃ w ∈ c.pending, w.party = p
  have before : c.Honours named := (serves_named steps).after
    (Chronicle.honours_start (numbered_opened (F := F) handled now))
    (Record.throughout (fun _ _ _ => trivial) _)
  have gone : f ∈ c.state.listed ∧ (c.state.abort f).1 = c.state.delist f := by
    unfold abort at aborted ⊢
    split at aborted
    · rename_i listed
      exact ⟨listed, by rw [if_pos listed]⟩
    · cases aborted
  have after : (c.happen steps (.abort f)).Honours named :=
    (serves_named steps).happen before trivial
  have holds : (leftTo (F := F) f under).holds (c.happen steps (.abort f)).state := by
    obtain ⟨g, here⟩ := before.state.listed f gone.1
    refine ⟨after.state, ⟨g, ?_⟩, ?_⟩
    · change (c.state.abort f).1.flows[f]? = some g
      rw [gone.2]
      exact here
    · change f ∉ (c.state.abort f).1.listed
      rw [gone.2]
      simp [delist]
  have page : (c.happen steps (.abort f)).turn.Honours (leftTo f under) := by
    refine Chronicle.honours_turn holds after.since fun w member answer t _ kept later => ?_
    have meets := after.pending w member answer t trivial kept.1 later
    exact meets_leftTo (fun _ => ⟨w, member, rfl⟩) kept meets
  have done : r.Honours (leftTo f under) :=
    (serves_leftTo steps).after page (Record.throughout (fun _ _ _ => trivial) _)
  exact ⟨fun d member => (done.moments d member).2.2, done.deeds, done.ended⟩

/-- What a camera says of itself that lets anyone in. -/
def openCamera : Camera.Report where
  username := "admin"
  userLevel := "admin"
  isAdmin := true
  address := some "AA-BB-CC-DD-EE-FF"
  port := 443
  useHttps := true
  name := "Door"
  model := none
  swVersion := none

def welcome : ∀ q : Calling Camera.device, Option q.Reply
  | .device (.client _) => some ⟨0, openCamera⟩
  | .device (.handshake _) => some ⟨openCamera, .succeeded⟩
  | .device (.logout _) => some (.ok ())
  | .awaitFlow _ => some ()
  | .hosting (.setUp _) => some .ready
  | .hosting .awaitTurn => some ()

/-- The credentials that a user submits. -/
def credentials : Data :=
  (((∅ : Data).insert "username" (.text "u")).insert "password" (.text "p")).insert "host" (.text "h")

def shown : List (Event Camera.Memory Camera.device) :=
  [.integrate Camera.domain Camera.integration, .call (.start Camera.domain .user none)]

/-- A flow that is aborted at its form can be submitted to no more. -/
theorem aborted_unanswered :
    let c := (Record.opened ∅ .epoch).after Camera.steps shown
    let r := Record.after Camera.steps (c.happen Camera.steps (.abort (Issue.id 0))).turn
      [.call (.submit (Issue.id 0) credentials)]
    (∀ deed ∈ r.deeds, deed.party.agent ≠ some (Issue.id 0)) ∧ r.ended.length = 1 := by
  refine ⟨fun deed member agent => ?_, rfl⟩
  obtain ⟨_, left, _⟩ := aborted_leaves Camera.steps ∅ .epoch shown
    [.call (.submit (Issue.id 0) credentials)] (Issue.id 0) rfl
  obtain ⟨w, waits, _⟩ := left deed member agent
  exact absurd waits List.not_mem_nil

/-- A flow is started, and its form is submitted; the camera is asked who it is. -/
def introduced : Record Camera.Memory Camera.device :=
  (Record.opened ∅ .epoch).after Camera.steps
    (shown ++ [.call (.submit (Issue.id 0) credentials), .reply 0 welcome])

/-- What is recorded after the flow has been aborted and the camera has answered. -/
def unstopped : Record Camera.Memory Camera.device :=
  Record.after Camera.steps (introduced.happen Camera.steps (.abort (Issue.id 0))).turn
    [.reply 0 welcome, .reply 0 welcome]

/-- The call that was under way adds an entry and presents the flow as having made it. -/
theorem aborted_creates :
    (introduced.state.abort (Issue.id 0)).2 = .ok () ∧
    (∃ deed ∈ unstopped.deeds, deed.party.agent = some (Issue.id 0) ∧
      deed.before.registry.size = 0 ∧ deed.after.registry.size = 1) ∧
    ∃ e ∈ unstopped.ended, ∃ title data options version entryId, e.ending =
      .ok (.flow (.ok ⟨Issue.id 0, Camera.domain, .created title data options version entryId⟩)) := by
  refine ⟨rfl, ?_, _, List.mem_cons_self .., _, _, _, _, _, rfl⟩
  have added : unstopped.deeds.any (fun deed => deed.party.agent == some (Issue.id 0) &&
      deed.before.registry.size == 0 && deed.after.registry.size == 1) = true := rfl
  simpa [and_assoc] using added

end Onboarding.Desk
