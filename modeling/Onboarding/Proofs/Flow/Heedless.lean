import Onboarding.Proofs.Flow.Discipline
import Onboarding.Proofs.Job.Heedless

/-! Replies of devices that no step heeds. No call heeds them either; so runs that differ in such
replies alone come to the same. -/
namespace Onboarding

variable {H : Type} {F : Signature} {deaf : F.Request → Prop}

/-- Requests of a step to the outside with `P`. -/
def StepRequest.Among (P : F.Request → Prop) : StepRequest F → Prop
  | outside q => P q
  | _ => False

/-- Requests to devices with `P`. -/
def Calling.Among (P : F.Request → Prop) : Calling F → Prop
  | device q => P q
  | _ => False

/-- No step heeds the replies to the requests in `deaf`. -/
def Steps.Heedless (steps : Steps H F) (deaf : F.Request → Prop) : Prop :=
  ∀ name input memory, Prog.Abides (.heedless (StepRequest.Among deaf)) (steps name input memory)

namespace Desk

/-- The discipline of not heeding the replies of devices to the requests in `deaf`. -/
def unheard (H : Type) (deaf : F.Request → Prop) : Discipline (.stateful (Desk H) (.desk F)) :=
  .heedless (Demand.Among (Calling.Among deaf))

theorem grants_unheard (deaf : F.Request → Prop) : Grants H F (unheard H deaf) where
  toFree := Discipline.free_heedless _
  hosting _ _ silent := silent.elim

theorem trained_unheard {steps : Steps H F} (heedless : steps.Heedless deaf) :
    Action.Trained steps (unheard H deaf) := by
  intro id name input memory
  refine Prog.abides_interpret (S := .step F) (fun q next same goesOn => ?_)
    (heedless name input memory)
  match q with
  | .outside q =>
    constructor
    · intro silent r r'
      exact congrArg (Prog.interpret (S := .step F) (Work.answer id)) (same silent r r')
    · exact goesOn
  | .context | .registry | .claim .. | .update .. | .reload _ =>
    exact Prog.abides_bind (Work.abides_answer (grants_unheard deaf) id (by rintro x ⟨⟩)) goesOn

theorem Call.unheard {steps : Steps H F} (heedless : steps.Heedless deaf) (c : Call) :
    (c.job steps).Abides (unheard H deaf) :=
  c.abides (grants_unheard deaf) (fun _ _ silent => silent.elim) (trained_unheard heedless)

/-- The events are the same, but for what is replied to requests in `deaf`. -/
inductive Event.Alike (deaf : F.Request → Prop) : Event H F → Event H F → Prop where
  | same (event : Event H F) : Alike deaf event event
  | reply (place : Nat) {say say' : ∀ q : Calling F, Option q.Reply}
    (alike : Chronicle.Alike (F := .desk F) (Calling.Among deaf) say say') :
    Alike deaf (.reply place say) (.reply place say')

namespace Record

variable {steps : Steps H F} {c c' : Record H F}

theorem unheeding_happen (heedless : steps.Heedless deaf)
    (unheeding : c.Unheeding (Calling.Among deaf)) (event : Event H F) :
    Chronicle.Unheeding (Calling.Among deaf) (c.happen steps event) := by
  cases event with
  | errand e => exact unheeding.start none (abides_errand (grants_unheard deaf) e)
  | call call => exact unheeding.start _ (call.unheard heedless)
  | reply place say => exact unheeding.reply place say
  | _ => exact unheeding

theorem agree_happen (unheeding : c.Unheeding (Calling.Among deaf)) (agree : c.Agree c')
    {event event' : Event H F} (alike : event.Alike deaf event') :
    Chronicle.Agree (c.happen steps event) (c'.happen steps event') := by
  cases alike with
  | reply place alike => exact agree.reply unheeding place alike
  | same event =>
    cases event with
    | change change => exact agree.put (congrArg (·.changed change) agree.state)
    | errand e => exact agree.start none (errandJob e)
    | call call =>
      have begins := agree.start (some (call.flow c.state)) (call.job steps)
      rw [happen, happen, ← agree.state]
      exact begins
    | abort id => exact agree.put (congrArg (fun d => (d.abort id).1) agree.state)
    | issue => exact agree.put (congrArg (fun d => d.issue.2) agree.state)
    | integrate domain i =>
      exact agree.put (congrArg
        (fun d => { d with integrations := d.integrations.insert domain i }) agree.state)
    | time now => exact agree.put (congrArg (fun d => { d with now }) agree.state)
    | reply place say => exact agree.reply unheeding place fun q => ⟨rfl, fun _ => rfl⟩

/-- Runs of the same events, but for replies that no step heeds, agree in all but what was heard. -/
theorem agree_after (heedless : steps.Heedless deaf) (unheeding : c.Unheeding (Calling.Among deaf))
    (agree : c.Agree c') {events events' : List (Event H F)}
    (alike : List.Forall₂ (Event.Alike deaf) events events') :
    Chronicle.Agree (c.after steps events) (c'.after steps events') := by
  induction alike generalizing c c' with
  | nil => exact agree
  | cons first rest ih =>
    exact ih (unheeding_happen heedless unheeding _) (agree_happen unheeding agree first)

end Record

end Desk

end Onboarding
