import Onboarding.Proofs.Flow.Record
import Onboarding.Proofs.Flow.Rules
import Onboarding.Proofs.Job.Discipline

/-! Disciplines of asking, at a desk. Where the registry may be asked to set entries up, and the
steps of the flows abide by a discipline, so do the calls. -/
namespace Onboarding

variable {H : Type} {F : Signature}

/-- The step asks the desk itself. -/
def StepRequest.Indoors : StepRequest F → Prop
  | outside _ => False
  | _ => True

/-- The call asks the integrations that entries are set up by. -/
def Calling.IsHosting : Calling F → Prop
  | hosting _ => True
  | _ => False

namespace Desk

open Job

/-- The discipline leaves the desk free, and the actions of its registry. -/
structure Grants (H : Type) (F : Signature) (D : Discipline (.stateful (Desk H) (.desk F))) :
    Prop extends D.Free where
  hosting : ∀ {α : Type} (q : Hosting) (next : q.Reply → Work H F α),
    D.admits (.outside (.hosting q)) next

variable {D : Discipline (.stateful (Desk H) (.desk F))}

namespace Work

theorem abides_host (grants : Grants H F D) {α : Type} (a : Registry.Action α) :
    (host a : Work H F (Except RegistryError α)).Abides D := by
  have asks (q : Hosting) : (call (F := .desk F) (.hosting q) : Work H F q.Reply).Abides D :=
    ⟨grants.hosting q _, fun _ => trivial⟩
  exact abides_within (F := .hosting) grants.toFree asks a.run

/-- What a step asks of the desk is granted, except for what is asked of devices. -/
theorem abides_answer (grants : Grants H F D) (id : String) {q : StepRequest F}
    (indoors : ∀ x, q ≠ .outside x) : (answer id q : Work H F q.Reply).Abides D := by
  have free := grants.toFree
  cases q with
  | context => exact Prog.abides_bind (abides_get free) fun _ => abides_pure _
  | registry => exact Prog.abides_bind (abides_get free) fun _ => abides_pure _
  | claim uniqueId exclusive => exact abides_modifyGet free _
  | update entryId u => exact abides_modifyGet free _
  | reload entryId => exact abides_host grants _
  | outside q => exact absurd rfl (indoors q)

theorem abides_inTurn (free : D.Free) {α : Type} (id : String)
    (waits : ∀ {β : Type} (next : Unit → Work H F β), D.admits (.outside (.awaitFlow id)) next)
    {w : Work H F α} (abides : w.Abides D) : (inTurn id w).Abides D := by
  have acts : Prog.Abides D (do
      modify (·.modifyFlow id ({ · with busy := true }))
      w.closing (modify (·.modifyFlow id ({ · with busy := false }))) : Work H F α) :=
    Prog.abides_bind (abides_modify free _) fun _ =>
      Prog.abides_closing abides (abides_modify free _)
  refine Prog.abides_bind (abides_get free) fun d => ?_
  split
  · exact ⟨waits _, fun _ => acts⟩
  · exact acts

end Work

namespace Action

variable {steps : Steps H F}

theorem abides_ofRegistry {α : Type} (r : Except RegistryError α) :
    (ofRegistry r : Action H F α).run.Abides D := by
  cases r with
  | ok a => exact abides_run_pure a
  | error e => exact abides_run_throw _

theorem abides_registerEntry (grants : Grants H F D) (c : Context) (title : String)
    (data options : Data) :
    (registerEntry c title data options : Action H F FlowResult.Body).run.Abides D := by
  refine abides_run_bind (abides_run_modifyGet grants.toFree _) fun id => ?_
  refine abides_run_bind (abides_run_get grants.toFree) fun d => ?_
  refine abides_run_bind (abides_run_modifyGet grants.toFree _) fun added => ?_
  split
  · exact abides_run_pure _
  · exact abides_run_throw _
  · refine abides_run_bind (abides_run_lift (Work.abides_host grants _)) fun _ => ?_
    exact abides_run_pure _

theorem abides_storeOptions (grants : Grants H F D) (c : Context) (title : String)
    (data options : Data) :
    (storeOptions c title data options : Action H F FlowResult.Body).run.Abides D := by
  unfold storeOptions
  split
  · refine abides_run_bind (abides_run_modifyGet grants.toFree _) fun updated => ?_
    refine abides_run_bind (abides_ofRegistry updated) fun _ => ?_
    exact abides_run_pure _
  · exact abides_run_pure _

theorem abides_conclude (grants : Grants H F D) (id : String) (kind : FlowKind) (o : Outcome) :
    (conclude id kind o : Action H F FlowResult).run.Abides D := by
  refine abides_run_bind (abides_run_get grants.toFree) fun d => ?_
  cases o with
  | form p =>
    refine abides_run_bind (abides_run_modify grants.toFree _) fun _ => ?_
    exact abides_run_pure _
  | abort reason =>
    refine abides_run_bind (abides_run_modify grants.toFree _) fun _ => ?_
    exact abides_run_pure _
  | create title data options =>
    refine abides_run_bind (abides_run_modify grants.toFree _) fun _ => ?_
    cases kind with
    | config =>
      refine abides_run_bind (abides_registerEntry grants _ title data options) fun _ => ?_
      exact abides_run_pure _
    | options =>
      refine abides_run_bind (abides_storeOptions grants _ title data options) fun _ => ?_
      exact abides_run_pure _

theorem abides_settle (grants : Grants H F D) (id : String) (kind : FlowKind)
    (r : Except StepError Outcome × H) :
    (settle id kind r : Action H F FlowResult).run.Abides D := by
  obtain ⟨ending, memory⟩ := r
  refine abides_run_bind (abides_run_modify grants.toFree _) fun _ => ?_
  match ending with
  | .ok o => exact abides_conclude grants id kind o
  | .error (.abort reason) => exact abides_conclude grants id kind (.abort reason)
  | .error (.unknownStep step) => exact abides_run_throw _
  | .error (.registry e) => exact abides_run_throw _

/-- The steps, as they are taken for flows, abide by the discipline. -/
def Trained (steps : Steps H F) (D : Discipline (.stateful (Desk H) (.desk F))) : Prop :=
  ∀ id name input memory, Prog.Abides D
    (Prog.interpret (S := .step F) (Work.answer id) (steps name input memory) : Work H F _)

theorem abides_takeStep (grants : Grants H F D) (trained : Trained steps D) (id step : String)
    (input : Option Data) : (takeStep steps id step input).run.Abides D := by
  refine abides_run_bind (abides_run_get grants.toFree) fun d => ?_
  split
  · exact abides_run_throw _
  rename_i flow _
  refine abides_run_bind (abides_run_lift (trained id step input flow.memory)) fun r => ?_
  exact abides_settle grants id flow.kind r

theorem abides_start (grants : Grants H F D) (trained : Trained steps D) (kind : FlowKind)
    (memory : H) (c : Context) (step : String) (data : Option Data) :
    (start steps kind memory c step data).run.Abides D := by
  refine abides_run_bind (abides_run_modify grants.toFree _) fun _ => ?_
  refine abides_run_bind (abides_run_lift (Prog.abides_closing
    (abides_takeStep grants trained c.flowId step data) (abides_modify grants.toFree _)))
    fun ending => ?_
  cases ending with
  | ok r => exact abides_run_pure r
  | error e =>
    refine abides_run_bind (abides_run_modify grants.toFree _) fun _ => ?_
    exact abides_run_throw e

theorem abides_integration (free : D.Free) (domain : String) :
    (integration domain : Action H F (Integration H)).run.Abides D := by
  refine abides_run_bind (abides_run_get free) fun d => ?_
  split
  · exact abides_run_pure _
  · exact abides_run_throw _

theorem abides_entry (free : D.Free) (id : String) :
    (entry id : Action H F Entry).run.Abides D := by
  refine abides_run_bind (abides_run_get free) fun d => ?_
  split
  · exact abides_run_pure _
  · exact abides_run_throw _

theorem abides_answering (grants : Grants H F D) (trained : Trained steps D) (id : String)
    (input : Data) : (answering steps id input).run.Abides D := by
  refine abides_run_bind (abides_run_get grants.toFree) fun d => ?_
  split
  · exact abides_run_throw _
  rename_i flow _
  by_cases finished : flow.finished = true
  · rw [if_pos finished]
    exact abides_run_throw _
  · rw [if_neg finished]
    split
    · exact abides_run_throw _
    · exact abides_takeStep grants trained id flow.step _

theorem abides_submit (grants : Grants H F D)
    (waits : ∀ {β : Type} (id : String) (next : Unit → Work H F β),
      D.admits (.outside (.awaitFlow id)) next)
    (trained : Trained steps D) (id : String) (input : Data) :
    (submit steps id input).run.Abides D := by
  refine abides_run_bind (abides_run_get grants.toFree) fun d => ?_
  by_cases unlisted : id ∉ d.listed
  · rw [if_pos unlisted]
    exact abides_run_throw _
  · rw [if_neg unlisted]
    exact Work.abides_inTurn grants.toFree id (waits id) (abides_answering grants trained id input)

end Action

/-- Where the steps abide by a discipline, all calls do. -/
theorem Call.abides {steps : Steps H F} (grants : Grants H F D)
    (waits : ∀ {β : Type} (id : String) (next : Unit → Work H F β),
      D.admits (.outside (.awaitFlow id)) next)
    (trained : Action.Trained steps D) (c : Call) : (c.job steps).Abides D := by
  refine Prog.abides_bind ?_ fun _ => abides_pure _
  have free := grants.toFree
  cases c with
  | start handler source data =>
    refine abides_run_bind (Action.abides_integration free handler) fun i => ?_
    refine abides_run_bind (abides_run_modifyGet free _) fun flowId => ?_
    exact Action.abides_start grants trained ..
  | startReauth entryId =>
    refine abides_run_bind (Action.abides_entry free entryId) fun e => ?_
    refine abides_run_bind (Action.abides_integration free e.domain) fun i => ?_
    refine abides_run_bind (abides_run_modifyGet free _) fun flowId => ?_
    exact Action.abides_start grants trained ..
  | startOptions entryId =>
    refine abides_run_bind (Action.abides_entry free entryId) fun e => ?_
    refine abides_run_bind (Action.abides_integration free e.domain) fun i => ?_
    split
    · exact abides_run_throw _
    · refine abides_run_bind (abides_run_modifyGet free _) fun flowId => ?_
      exact Action.abides_start grants trained ..
  | submit id input => exact Action.abides_submit grants waits trained id input

theorem abides_errand (grants : Grants H F D) (e : Registry.Errand) :
    (errandJob e : Work H F Answer).Abides D :=
  Prog.abides_bind (Work.abides_host grants e.action) fun _ => abides_pure _

/-- The discipline of asking nothing but of the integrations that entries are set up by. -/
def hostingOnly (H : Type) (F : Signature) : Discipline (.stateful (Desk H) (.desk F)) :=
  .only (Demand.Sends Calling.IsHosting)

theorem grants_hostingOnly : Grants H F (hostingOnly H F) where
  toFree := Discipline.free_only _
  hosting _ _ := trivial

/-- A program that asks the desk alone asks nothing of devices when it is run for a flow. -/
theorem hostingOnly_of_indoors (id : String) {α : Type} {p : Prog (.step F) α}
    (indoors : p.Abides (.only StepRequest.Indoors)) :
    Prog.Abides (hostingOnly H F) (Prog.interpret (S := .step F) (Work.answer id) p : Work H F α) := by
  refine Prog.abides_interpret (S := .step F) (fun q next admitted goesOn => ?_) indoors
  refine Prog.abides_bind (Work.abides_answer grants_hostingOnly id ?_) goesOn
  rintro x rfl
  exact admitted

end Desk

end Onboarding
