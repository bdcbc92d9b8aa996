import Onboarding.Proofs.Flow.Aborted
import Onboarding.Proofs.Flow.Rounds

/-! Flows in progress. At every moment the rows are those of the listed flows and say what these
are. A flow that is not in the middle of a step shows the form that was answered last for it, and
goes on from there. Once a flow has ended, was aborted, or failed to start, it is found no more. -/
namespace Onboarding.Desk

open Job

variable {H : Type} {F : Signature} {steps : Steps H F} {c : Record H F} {id : String}

/-- Checks an input against a form and takes the step of it. -/
def Action.formStep (steps : Steps H F) (id : String) (p : Page) (input : Data) :
    Action H F FlowResult :=
  match p.schema.validate input with
  | .error r => throw (.rejected r)
  | .ok clean => takeStep steps id p.step (some clean)

/-- The call that answers a form in the turn on its flow. -/
def formCall (steps : Steps H F) (id : String) (p : Page) (input : Data) : Work H F Answer := do
  modify (·.modifyFlow id ({ · with busy := true }))
  return .flow (← (Action.formStep steps id p input).run.closing
    (modify (·.modifyFlow id ({ · with busy := false }))))

/-- A submit that has the turn on a flow answers the form that the flow shows. -/
theorem follow_turnCall {f : Flow H} (here : c.state.flows[id]? = some f)
    (unfinished : f.finished = false) {p : Page} (step : f.step = p.step)
    (schema : f.schema = p.schema) (party : Party (Option String))
    (heard : List (Heard (Desk H) (.desk F))) (input : Data) :
    Chronicle.follow party heard (turnCall steps id input) c =
      Chronicle.follow party heard (formCall steps id p input) c := by
  let taken := c.state.modifyFlow id ({ · with busy := true })
  have there : taken.flows[id]? = some { f with busy := true } := by
    rw [flow_modifyFlow_self, here]
    rfl
  let comes (a : Action H F FlowResult) := Chronicle.follow party heard
    ((a.run.closing (modify (·.modifyFlow id ({ · with busy := false })))) >>=
      fun r => pure (Answer.flow r))
    { c.put taken with deeds := ⟨party, heard, c.state, taken⟩ :: c.deeds }
  have reads (f : Desk H → Action H F FlowResult) : comes (get >>= f) = comes (f taken) := rfl
  change comes (Action.answering steps id input) = comes (Action.formStep steps id p input)
  rw [Action.answering, reads, there]
  simp only [unfinished, step, schema]
  rfl

namespace Record

/-- Submits on the flow answer the form: those that come now, and those that have waited. -/
structure AnswersForm (steps : Steps H F) (c : Record H F) (id : String) (p : Page) : Prop where
  now : ∀ input, c.happen steps (.call (.submit id input)) =
    c.start (some id) (formCall steps id p input)
  waited : ∀ (c' : Record H F) party heard input, c'.state = c.state →
    Chronicle.follow party heard (turnCall steps id input) c' =
      Chronicle.follow party heard (formCall steps id p input) c'

/-- The flow is known to no call any more. -/
structure Unknown (steps : Steps H F) (c : Record H F) (id : String) : Prop where
  unlisted : id ∉ c.state.listed
  abort : c.state.abort id = (c.state, .error (.unknownFlow id))
  submit : ∀ input, c.happen steps (.call (.submit id input)) =
    Chronicle.close { c with begun := c.begun + 1 }
      ⟨⟨c.begun, some id⟩, [], .ok (.flow (.error (.unknownFlow id))), c.state⟩

theorem unknown_of_unlisted (unlisted : id ∉ c.state.listed) : c.Unknown steps id :=
  ⟨unlisted, if_neg unlisted, submit_unlisted unlisted⟩

/-- The flow has come to its end in the course of the events: by a result that ends it, by an abort,
or by a start of it that failed. -/
inductive Ends (steps : Steps H F) (first : Record H F) : List (Event H F) → String → Prop where
  | answered {events : List (Event H F)} {id : String}
    {e : Ended (Option String) (Desk H) (.desk F) Answer}
    (member : e ∈ (first.after steps events).ended) (concludes : Concludes id e.ending) :
    Ends steps first events id
  | aborted {events : List (Event H F)} {id : String}
    (aborted : ((first.after steps events).state.abort id).2 = .ok ()) :
    Ends steps first (events ++ [.abort id]) id
  | failed {before later : List (Event H F)} {call : Call}
    {e : Ended (Option String) (Desk H) (.desk F) Answer} (starts : call.Starts)
    (made : ∃ f, (first.after steps (before ++ [.call call])).state.flows[
      call.flow (first.after steps before).state]? = some f)
    (member : e ∈ (first.after steps (before ++ .call call :: later)).ended)
    (number : e.party.number = (first.after steps before).begun) (fails : Fails e.ending) :
    Ends steps first (before ++ .call call :: later) (call.flow (first.after steps before).state)
  | later {events : List (Event H F)} {id : String} (ends : Ends steps first events id)
    (more : List (Event H F)) : Ends steps first (events ++ more) id

end Record

variable {u : Practice H} {handled : Std.ExtTreeSet String} {now : Instant}
  {events later : List (Event H F)} {starts : Nat → String → Prop}

/-- The ledger of a desk is kept from its opening on. -/
theorem ledger_after (trains : u.Trains steps)
    (admits : ∀ domain i, .integrate domain i ∈ events → u.Admits domain i)
    (turns : (Record.opened handled now).TakesTurns steps events) :
    Ledger u steps (fun _ _ => False) none ((Record.opened handled now).after steps events) :=
  (ledger_opened u steps handled now).after trains turns admits (by rintro n id ⟨⟩)

namespace Ledger

/-- The form that was answered last is shown, if there is nothing in the way. -/
theorem answersForm (ledger : Ledger u steps starts none c) (listed : id ∈ c.state.listed)
    (idle : ¬ c.InStep id) (sure : ¬ c.Stumbled id) :
    ∃ p, c.lastForm id = some p ∧ c.state.Shows id p ∧ c.AnswersForm steps id p := by
  have free : ¬ c.state.Busy id := fun busy =>
    idle ((ledger.manned id busy).resolve_left (by rintro ⟨⟩))
  have begun : c.Begun id := by
    rcases (ledger.begins id listed).resolve_left (by rintro ⟨⟩) with begun | inStep
    · exact begun
    · exact absurd inStep idle
  obtain ⟨p, form⟩ := Option.ne_none_iff_exists'.mp (begun.resolve_right sure)
  have shows := ledger.shows form
  obtain ⟨f, here, step, schema⟩ := shows.flow
  have unfinished := ledger.sound.tabled.unfinished listed here
  have answers (c' : Record H F) (party heard input) (same : c'.state = c.state) :
      Chronicle.follow party heard (turnCall steps id input) c' =
        Chronicle.follow party heard (formCall steps id p input) c' :=
    follow_turnCall (same ▸ here) unfinished step schema party heard input
  refine ⟨p, form, shows, ⟨fun input => ?_, answers⟩⟩
  rw [submit_free listed free]
  exact answers _ _ _ input rfl

/-- From one moment on to the last, flows stay the flows they are. -/
theorem forth_after (ledger : Ledger u steps starts none
    (Record.after steps (c.after steps events) later)) :
    Forth (c.after steps events).state (Record.after steps (c.after steps events) later).state :=
  (ledger.moments _ (((c.after steps events).seen_after steps later).subset
    (List.mem_cons_self ..))).2

end Ledger

/-- A flow that has come to its end stays off the lists. -/
theorem Record.Ends.off (trains : u.Trains steps)
    (ends : Ends steps (Record.opened handled now) events id)
    (admits : ∀ domain i, .integrate domain i ∈ events → u.Admits domain i)
    (turns : (Record.opened handled now).TakesTurns steps events) :
    ((Record.opened handled now).after steps events).state.Off id := by
  induction ends with
  | answered member concludes =>
    have ledger := ledger_after trains admits turns
    exact (ledger.gone _ member _ concludes).1.off
  | @aborted events id aborted =>
    rw [takesTurns_append] at turns
    have ledger := ledger_after trains
      (fun domain i member => admits domain i (List.mem_append_left _ member)) turns.1
    have listed : id ∈ ((Record.opened handled now).after steps events).state.listed := by
      by_contra unlisted
      rw [Desk.abort, if_neg unlisted] at aborted
      cases aborted
    rw [after_append]
    change (Desk.abort _ id).1.Off id
    rw [Desk.abort, if_pos listed]
    have retirement := retirement_delist ((Record.opened handled now).after steps events).state id
    obtain ⟨f, here⟩ := ledger.sound.numbered.listed id listed
    refine ⟨⟨f, ?_⟩, fun member => ((retirement.listed id).mp member).1 rfl⟩
    rw [retirement.flow, here]
    exact congrArg some (ite_self f)
  | @failed before later call e opening made member number fails =>
    let old : Record H F := (Record.opened handled now).after steps before
    let starts (n : Nat) (id : String) : Prop := n = old.begun ∧ id = call.flow old.state
    obtain ⟨early, turn, rest⟩ := takesTurns_append.mp turns
    have ledger : Ledger u steps starts none old :=
      (ledger_after trains (fun domain i member => admits domain i (List.mem_append_left _ member))
        early).renew fun n id began => Nat.le_of_eq began.1.symm
    have started : Ledger u steps starts none (old.happen steps (.call call)) := by
      refine ledger.happen trains turn (by rintro domain i ⟨⟩) fun call' same id began => ?_
      cases same
      obtain ⟨_, rfl⟩ := began
      refine ⟨opening, rfl, ?_⟩
      rw [after_append] at made
      exact made
    have done : Ledger u steps starts none
        (Record.after steps (old.happen steps (.call call)) later) := by
      refine started.after trains rest (fun domain i member => admits domain i
        (List.mem_append_right _ (List.mem_cons_of_mem _ member))) fun n id began => ?_
      rw [began.1, happen, old.begun_start]
      exact Nat.lt_succ_self _
    rw [after_append] at member ⊢
    exact done.failed e member _ ⟨number, rfl⟩ fails
  | @later events id ends more ih =>
    have ledger := ledger_after trains admits turns
    rw [after_append] at ledger ⊢
    refine ledger.forth_after.off (ih (fun domain i member => ?_) (takesTurns_append.mp turns).1)
    exact admits domain i (List.mem_append_left _ member)

/-- At every moment of every run in which the calls on a flow take turns, the rows are those of the
listed flows, and say what these are. A listed flow that is not in the middle of a step, and of
which no call has crashed, shows the form that was answered last for it, and submits answer that
form; one that is in the middle of a step lets them wait. A flow that has come to its end is known
to no call any more, and no flow comes to two results that end it. -/
theorem table_kept (steps : Steps H F) (handled : Std.ExtTreeSet String) (now : Instant)
    {events : List (Event H F)}
    (turns : (Record.opened handled now).TakesTurns steps events) :
    let c := (Record.opened handled now).after steps events
    (∀ d ∈ c.seen, d.Tabled) ∧
    (∀ id ∈ c.state.listed, ¬ c.InStep id → ¬ c.Stumbled id →
      ∃ p, c.lastForm id = some p ∧ c.state.Shows id p ∧ c.AnswersForm steps id p) ∧
    (∀ id ∈ c.state.listed, c.InStep id → ∀ input,
      c.happen steps (.call (.submit id input)) = Chronicle.await { c with begun := c.begun + 1 }
        ⟨⟨c.begun, some id⟩, [], c.state, .awaitFlow id, fun _ => turnCall steps id input⟩) ∧
    (∀ id, Record.Ends steps (Record.opened handled now) events id → c.Unknown steps id) ∧
    c.ended.Pairwise fun e e' => ∀ id, Concludes id e.ending → ¬ Concludes id e'.ending := by
  intro c
  have trains : Practice.none.Trains steps := Practice.none_trains steps
  have admits (domain : String) (i : Integration H) (_ : .integrate domain i ∈ events) :
      Practice.none.Admits domain i := Practice.none_admits domain i
  have ledger := ledger_after trains admits turns
  refine ⟨fun d member => (ledger.moments d member).1.tabled, ?_, ?_, ?_, ledger.single⟩
  · intro id listed idle sure
    exact ledger.answersForm listed idle sure
  · intro id listed inStep input
    exact submit_busy listed (ledger.busy inStep) input
  · intro id ends
    exact Record.unknown_of_unlisted (ends.off trains admits turns).unlisted

/-- The flow of a camera that was started shows its first form, and submits answer that. -/
theorem first_form_answered :
    let c := (Record.opened ∅ .epoch).after Camera.steps shown
    (Record.opened ∅ .epoch).TakesTurns Camera.steps shown ∧
    ∃ p, c.lastForm (Issue.id 0) = some p ∧ p.step = "user" ∧ c.state.Shows (Issue.id 0) p ∧
      c.AnswersForm Camera.steps (Issue.id 0) p := by
  intro c
  have turns : (Record.opened ∅ .epoch).TakesTurns Camera.steps shown := ⟨trivial, trivial, trivial⟩
  have listed : Issue.id 0 ∈ c.state.listed := by
    rw [Std.ExtTreeSet.mem_iff_contains]
    rfl
  have idle : ¬ c.InStep (Issue.id 0) := by
    rintro ⟨w, ⟨⟩, _⟩
  have sure : ¬ c.Stumbled (Issue.id 0) := by
    rintro ⟨e, member, _, x, crashed⟩
    cases List.mem_singleton.mp member
    cases crashed
  obtain ⟨_, answers, _⟩ := table_kept Camera.steps ∅ .epoch turns
  obtain ⟨p, form, shows, answersForm⟩ := answers (Issue.id 0) listed idle sure
  have step : (c.lastForm (Issue.id 0)).map Page.step = some "user" := rfl
  rw [form] at step
  exact ⟨turns, p, form, Option.some.inj step, shows, answersForm⟩

end Onboarding.Desk
