import Onboarding.Proofs.Job.Chronicle
import Onboarding.Proofs.Flow.Manners

/-! Calls on the record of a desk. A submit goes on in its turn as soon as it has it; while it waits
for the turn it is the same call still. A start and an errand keep to what they owe from their
first moment on. -/
namespace Onboarding

variable {H : Type} {F : Signature}

/-- A job in the middle of a call on the flow, or of the entry that came of it. A job that waits for
its turn on the flow is not. -/
def Pending.InStep (w : Pending (Option String) (Desk H) (.desk F) Desk.Answer) (id : String) :
    Prop := w.party.agent = some id ∧ ∀ other, w.request ≠ .awaitFlow other

namespace Desk

open Job

/-- The form that a call ended with, if it was for the flow. -/
def shownBy (id : String) : Except Crash Answer → Option Page
  | .ok (.flow (.ok ⟨flowId, _, .form p⟩)) => if flowId = id then some p else none
  | _ => none

/-- The call ended with a result that ends the flow. -/
def Concludes (id : String) (ending : Except Crash Answer) : Prop :=
  ∃ r : FlowResult, ending = .ok (.flow (.ok r)) ∧ r.isTerminal = true ∧ r.flowId = id

/-- The call on a flow ended with an error. -/
def Fails (ending : Except Crash Answer) : Prop := ∃ e, ending = .ok (.flow (.error e))

theorem shownBy_eq_some {id : String} {ending : Except Crash Answer} {p : Page} :
    shownBy id ending = some p ↔
      ∃ r : FlowResult, ending = .ok (.flow (.ok r)) ∧ r.flowId = id ∧ r.body = .form p := by
  constructor
  · intro shown
    unfold shownBy at shown
    split at shown
    · rename_i flowId handler p'
      split at shown
      · rename_i named
        cases shown
        exact ⟨_, rfl, named, rfl⟩
      · cases shown
    · cases shown
  · rintro ⟨⟨flowId, handler, body⟩, rfl, rfl, rfl⟩
    exact if_pos rfl

/-- A form ends no flow. -/
theorem Concludes.not_shownBy {id other : String} {ending : Except Crash Answer}
    (concludes : Concludes id ending) : shownBy other ending = none := by
  obtain ⟨⟨flowId, handler, body⟩, rfl, terminal, _⟩ := concludes
  cases body with
  | form p => cases terminal
  | created => rfl
  | aborted => rfl

/-- The post-condition of a call, for its answer. -/
def answering (post : Post (Desk H) (.desk F) (Except FlowError FlowResult)) :
    Post (Desk H) (.desk F) Answer := fun heard ended t =>
  ∃ ended', ended = ended'.map Answer.flow ∧ post heard ended' t

theorem obeys_answered {π : Protocol (Desk H) (.desk F)}
    {post : Post (Desk H) (.desk F) (Except FlowError FlowResult)}
    {w : Work H F (Except FlowError FlowResult)} {heard : List (Heard (Desk H) (.desk F))}
    {d : Desk H} (obeys : w.Obeys π post heard d) :
    Obeys π (answering post) (w >>= fun r => pure (Answer.flow r)) heard d := by
  exact obeys_map.mpr (obeys_imp (fun heard ended t ends => ⟨ended, rfl, ends⟩) obeys)

/-- What a submit does once it has the turn, with its answer. -/
def turnCall (steps : Steps H F) (id : String) (input : Data) : Work H F Answer := do
  return .flow (← turnJob steps id input)

variable {steps : Steps H F} {c : Record H F} {id : String}

theorem submit_unlisted (unlisted : id ∉ c.state.listed) (input : Data) :
    c.happen steps (.call (.submit id input)) =
      Chronicle.close { c with begun := c.begun + 1 }
        ⟨⟨c.begun, some id⟩, [], .ok (.flow (.error (.unknownFlow id))), c.state⟩ := by
  change Chronicle.follow ⟨c.begun, some id⟩ [] ((ExceptT.run
    (if id ∉ c.state.listed then throw (FlowError.unknownFlow id) else _ :
      Action H F FlowResult)) >>= fun r => pure (Answer.flow r)) { c with begun := c.begun + 1 } = _
  rw [if_pos unlisted]
  rfl

theorem submit_listed (listed : id ∈ c.state.listed) (input : Data) :
    c.happen steps (.call (.submit id input)) = c.start (some id) (do
      return .flow (← Work.inTurn id (Action.answering steps id input).run)) := by
  change Chronicle.follow ⟨c.begun, some id⟩ [] ((ExceptT.run
    (if id ∉ c.state.listed then throw (FlowError.unknownFlow id) else
      Action.inTurn id (Action.answering steps id input) : Action H F FlowResult)) >>=
        fun r => pure (Answer.flow r)) { c with begun := c.begun + 1 } = _
  rw [if_neg fun unlisted => unlisted listed]
  rfl

theorem submit_busy (listed : id ∈ c.state.listed) (busy : c.state.Busy id) (input : Data) :
    c.happen steps (.call (.submit id input)) =
      Chronicle.await { c with begun := c.begun + 1 }
        ⟨⟨c.begun, some id⟩, [], c.state, .awaitFlow id, fun _ => turnCall steps id input⟩ := by
  have taken : c.state.flows[id]?.any Flow.busy = true := busy
  rw [submit_listed listed]
  change Chronicle.follow ⟨c.begun, some id⟩ [] ((if c.state.flows[id]?.any Flow.busy = true
    then _ else _ : Work H F (Except FlowError FlowResult)) >>= fun r => pure (Answer.flow r))
    { c with begun := c.begun + 1 } = _
  rw [if_pos taken]
  rfl

theorem submit_free (listed : id ∈ c.state.listed) (free : ¬ c.state.Busy id) (input : Data) :
    c.happen steps (.call (.submit id input)) = c.start (some id) (turnCall steps id input) := by
  have untaken : ¬ c.state.flows[id]?.any Flow.busy = true := free
  rw [submit_listed listed]
  change Chronicle.follow ⟨c.begun, some id⟩ [] ((if c.state.flows[id]?.any Flow.busy = true
    then _ else _ : Work H F (Except FlowError FlowResult)) >>= fun r => pure (Answer.flow r))
    { c with begun := c.begun + 1 } = _
  rw [if_neg untaken]
  rfl

variable {u : Practice H} {d : Desk H}

/-- A call that starts a flow. -/
def Call.Starts : Call → Prop
  | submit .. => False
  | _ => True

theorem Sound.fresh (sound : d.Sound u) : ¬ d.Busy (Issue.id d.issued) := by
  intro busy
  obtain ⟨f, here⟩ := busy.flow
  cases sound.numbered.fresh.symm.trans here

theorem Sound.unlisted_fresh (sound : d.Sound u) : Issue.id d.issued ∉ d.listed := by
  intro member
  obtain ⟨f, here⟩ := sound.numbered.listed _ member
  cases sound.numbered.fresh.symm.trans here

theorem obeys_opens (trains : u.Trains steps) (sound : d.Sound u) {kind : FlowKind} {memory : H}
    {c : Context} {step : String} {data : Option Data}
    (opening : Action.Opening d kind memory c step data) :
    Action.OpensBy steps (manners u (Issue.id d.issued) none) (Returns (Issue.id d.issued) none true)
      [] d kind memory c step data := by
  have enrolls := sound.enroll opening
  have held : (d.issue.2.enroll kind memory c step).Held c.flowId none := by
    refine ⟨?_, by rintro p ⟨⟩⟩
    rw [Busy, flow_enroll, if_pos rfl]
    rfl
  rw [← opening.flowId]
  exact ⟨sound.issue _, enrolls, obeys_underWay trains enrolls.sound held step data⟩

/-- A start keeps to its manners from its first moment on; one that finds nothing to start leaves
everything as it is. -/
theorem Call.obeys_start (trains : u.Trains steps) {call : Call} (starts : call.Starts)
    (sound : d.Sound u) :
    (call.job steps).Obeys (manners u (call.flow d) none)
      (answering (Returns (call.flow d) none true)) [] d := by
  have fails (e : FlowError) : Returns (F := F) (Issue.id d.issued) none true [] (.ok (.error e)) d :=
    ⟨sound.fresh, .fails (fun _ => sound.unlisted_fresh) (by rintro p ⟨⟩)⟩
  refine obeys_answered ?_
  cases call with
  | start handler source data =>
    exact Action.obeys_startConfig (fun _ => fails) fun i registered =>
      obeys_opens trains sound (.config registered)
  | startReauth entryId =>
    exact Action.obeys_startReauth fails fun e i held registered =>
      obeys_opens trains sound (.reauth held registered)
  | startOptions entryId =>
    exact Action.obeys_startOptions fails fun e i memory held registered has =>
      obeys_opens trains sound (.options held registered has)
  | submit id input => exact starts.elim

/-- What an errand of the registry owes to the flows: it leaves them alone. -/
def aside (u : Practice H) : Protocol (Desk H) (.desk F) where
  finds _ _ s t := t.Sound u ∧ Forth s t
  writes _ s t := Stroke u none s t
  waits _ _ _ := True

theorem obeys_errand (e : Registry.Errand) (sound : d.Sound u) :
    (errandJob e : Work H F Answer).Obeys (aside u)
      (fun _ ended _ => ∀ r, ended ≠ .ok (.flow r)) [] d := by
  have hosted : (Work.host e.action : Work H F _).Obeys (aside u) (fun _ _ t => t.Sound u) [] d := by
    refine Work.obeys_host e.cycles (I := fun _ t => t.Sound u) (fun heard d r sound moved => ?_)
      (fun _ _ _ _ => trivial) (fun _ _ _ _ _ _ found => found.1) sound
    have stroke := sound.lifecycle moved none
    exact ⟨stroke, stroke.sound⟩
  refine obeys_bind.mpr (obeys_imp (fun heard ended t _ => ?_) hosted)
  cases ended <;> rintro r ⟨⟩

end Desk

end Onboarding
