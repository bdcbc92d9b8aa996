import Onboarding.Proofs.Flow.Conduct
import Onboarding.Proofs.Flow.Sittings

/-! What a call makes of a flow in its turn, by the end of the step that it takes. With a form the
flow remembers what the step leaves and shows the form. Without one, and however long the step has
been asking, a flow that is to remember what it remembered rests where it was. -/
namespace Onboarding

/-- The flow remembers what it remembered, and shows what it showed. -/
structure Flow.Rests {H : Type} (f g : Flow H) : Prop where
  memory : g.memory = f.memory
  step : g.step = f.step
  schema : g.schema = f.schema

namespace Desk

open Job

variable {H : Type} {F : Signature} {steps : Steps H F} {d t : Desk H} {id : String} {f : Flow H}
  {heard : List (Heard (Desk H) (.desk F))}

/-- The flow that is there rests where it was. -/
def Resting (f : Flow H) (id : String) (d : Desk H) : Prop :=
  ∃ g, d.flows[id]? = some g ∧ f.Rests g

theorem resting_self (here : d.flows[id]? = some f) : Resting f id d :=
  ⟨f, here, rfl, rfl, rfl⟩

namespace Resting

theorem same (resting : Resting f id d) (flow : t.flows[id]? = d.flows[id]?) : Resting f id t := by
  rw [Resting, flow]
  exact resting

theorem mark (resting : Resting f id d) {change : Flow H → Flow H}
    (rests : ∀ g : Flow H, g.Rests (change g)) : Resting f id (d.modifyFlow id change) := by
  obtain ⟨g, here, before⟩ := resting
  have after := rests g
  refine ⟨change g, ?_, after.memory.trans before.memory, after.step.trans before.step,
    after.schema.trans before.schema⟩
  rw [flow_modifyFlow_self, here]
  rfl

theorem close (resting : Resting f id d) : Resting f id (d.close id) :=
  resting.mark fun _ => ⟨rfl, rfl, rfl⟩

theorem remember (resting : Resting f id d) {memory : H} (same : memory = f.memory) :
    Resting f id (d.modifyFlow id ({ · with memory })) := by
  obtain ⟨g, here, rests⟩ := resting
  refine ⟨{ g with memory }, ?_, same, rests.step, rests.schema⟩
  rw [flow_modifyFlow_self, here]
  rfl

/-! What a call does in its turn. -/

theorem host {α : Type} {a : Registry.Action α} (cycles : a.Cycles) (resting : Resting f id d) :
    (Work.host a : Work H F (Except RegistryError α)).Obeys (sitting H F id)
      (fun _ _ t => Resting f id t) heard d :=
  Work.obeys_host cycles (I := fun _ t => Resting f id t)
    (fun _ _ _ resting _ => ⟨trivial, resting⟩) (fun _ _ _ _ => by rintro other ⟨⟩)
    (fun _ _ _ _ _ resting found => resting.same found) resting

theorem answer (resting : Resting f id d) (q : StepRequest F) :
    (Work.answer id q : Work H F q.Reply).Obeys (sitting H F id) (fun _ _ t => Resting f id t)
      heard d := by
  cases q with
  | context => exact resting
  | registry => exact resting
  | claim uniqueId exclusive =>
    refine ⟨trivial, ?_⟩
    change Resting f id (d.claim id uniqueId exclusive).2
    unfold Desk.claim
    dsimp only
    split
    · exact resting
    · exact mark (d := d.modifyProgress id ({ · with uniqueId := some uniqueId })) resting
        fun _ => ⟨rfl, rfl, rfl⟩
  | update entryId c => exact ⟨trivial, resting⟩
  | reload entryId => exact host (Registry.Action.cycles_reload entryId) resting
  | outside q => exact ⟨by rintro other ⟨⟩, fun _ _ found => resting.same found⟩

/-- The flow rests, and no form is answered. -/
def quietly (f : Flow H) (id : String) : Post (Desk H) (.desk F) (Except FlowError FlowResult) :=
  fun _ ended t => Resting f id t ∧ ∀ r page, ended = .ok (.ok r) → r.body ≠ .form page

theorem carryOut (resting : Resting f id d) (kind : FlowKind) (c : Context) (title : String)
    (data options : Data) :
    (Action.carryOut kind c title data options : Action H F FlowResult.Body).run.Obeys
      (sitting H F id)
      (fun heard ended t => quietly f id heard (ended.map (·.map (Action.result c))) t)
      heard d := by
  cases kind with
  | config =>
    refine Action.obeys_registerEntry rfl trivial trivial (fun i _ => ⟨resting, ?_⟩)
      (fun e _ _ => ⟨resting, ?_⟩) fun e _ => ?_
    · rintro _ page ⟨⟩ ⟨⟩
    · rintro _ page ⟨⟩
    · refine obeys_imp (fun heard ended t resting => ⟨resting, ?_⟩)
        (host (Registry.Action.cycles_setUp e.id) resting)
      cases ended with
      | ok _ => rintro _ page ⟨⟩ ⟨⟩
      | error x => rintro _ page ⟨⟩
  | options =>
    refine Action.obeys_storeOptions ⟨resting, ?_⟩ fun entryId _ =>
      ⟨trivial, fun ended ends => ⟨resting, ?_⟩⟩
    · rintro _ page ⟨⟩ ⟨⟩
    · rcases ends with ⟨e, rfl⟩ | rfl
      · rintro _ page ⟨⟩
      · rintro _ page ⟨⟩ ⟨⟩

/-- A step that ends without a form and leaves what the flow remembers. -/
structure Quiet (memory : H) (r : Except StepError Outcome × H) : Prop where
  kept : r.2 = memory
  formless : ∀ page, r.1 ≠ .ok (.form page)

theorem settle (resting : Resting f id d) (kind : FlowKind) {r : Except StepError Outcome × H}
    (quiet : Quiet f.memory r) :
    (Action.settle id kind r : Action H F FlowResult).run.Obeys (sitting H F id) (quietly f id)
      heard d := by
  obtain ⟨ending, memory⟩ := r
  have noted := resting.remember quiet.kept
  match ending with
  | .ok (.form page) => exact absurd rfl (quiet.formless page)
  | .ok (.abort reason) =>
    refine ⟨trivial, trivial, noted.close, ?_⟩
    rintro r page ⟨⟩ ⟨⟩
  | .ok (.create title data options) =>
    exact Action.obeys_settle_create trivial trivial
      (noted.close.carryOut kind _ title data options)
  | .error (.abort reason) =>
    refine ⟨trivial, trivial, noted.close, ?_⟩
    rintro r page ⟨⟩ ⟨⟩
  | .error (.unknownStep step) => exact ⟨trivial, noted, by rintro r page ⟨⟩⟩
  | .error (.registry e) => exact ⟨trivial, noted, by rintro r page ⟨⟩⟩

/-- Whatever a quiet step asks on its way, its flow rests. -/
theorem program (resting : Resting f id d) (kind : FlowKind)
    {p : Prog (.step F) (Except StepError Outcome × H)} (quiet : p.Ends (Quiet f.memory)) :
    Obeys (sitting H F id)
      (andObeys (sitting H F id) (fun r => (Action.settle id kind r).run) (quietly f id))
      (Prog.interpret (S := .step F) (Work.answer id) p) heard d := by
  induction p generalizing heard d with
  | done r => exact resting.settle kind quiet
  | crash x => exact ⟨resting, by rintro r page ⟨⟩⟩
  | ask q next ih =>
    refine obeys_bind.mpr (obeys_imp (fun heard ended t resting => ?_) (resting.answer q))
    cases ended with
    | ok r => exact ih r resting (quiet r)
    | error x => exact ⟨resting, by rintro r page ⟨⟩⟩

/-- A form that a step ends with is shown, and answered. -/
theorem shown {post : Post (Desk H) (.desk F) (Except FlowError FlowResult)} {memory : H}
    {page : Page} (resting : Resting f id d) (kind : FlowKind)
    (ends : ∀ r t, r.body = .form page →
      Resting { f with memory, step := page.step, schema := page.schema } id t →
      post heard (.ok (.ok r)) t) :
    (Action.settle id kind (.ok (.form page), memory)).run.Obeys (sitting H F id) post heard d := by
  refine ⟨trivial, trivial, ends _ _ rfl ?_⟩
  obtain ⟨g, here, rests⟩ := resting
  refine ⟨{ g with memory, step := page.step, schema := page.schema }, ?_, rfl, rfl, rfl⟩
  change ((d.modifyFlow id _).modifyFlow id _).flows[id]? = _
  rw [flow_modifyFlow_self, flow_modifyFlow_self, here]
  rfl

end Resting

/-- A submit in its turn is turned away by the form that it finds, or takes its step. -/
theorem sitting_turnJob {post : Post (Desk H) (.desk F) (Except FlowError FlowResult)}
    {input : Data} (here : d.flows[id]? = some f)
    (freed : ∀ heard ended t, post heard ended t →
      post heard ended (t.modifyFlow id ({ · with busy := false })))
    (refuses : ∀ e t, Resting f id t → post heard (.ok (.error e)) t)
    (takes : ∀ clean t, f.schema.validate input = .ok clean → Resting f id t →
      (Action.takeStep steps id f.step (some clean)).run.Obeys (sitting H F id) post heard t) :
    (turnJob steps id input).Obeys (sitting H F id) post heard d := by
  have taken : (d.modifyFlow id ({ · with busy := true })).flows[id]? =
      some { f with busy := true } := by
    rw [flow_modifyFlow_self, here]
    rfl
  have resting : Resting f id (d.modifyFlow id ({ · with busy := true })) :=
    (resting_self here).mark fun _ => ⟨rfl, rfl, rfl⟩
  have answers : (Action.answering steps id input).run.Obeys (sitting H F id) post heard
      (d.modifyFlow id ({ · with busy := true })) :=
    Action.obeys_answering_at taken (fun _ => refuses _ _ resting) (fun _ _ => refuses _ _ resting)
      fun clean answerable => takes clean _ answerable.2.2 resting
  refine ⟨trivial, obeys_closing.mpr (obeys_imp (fun heard ended t ends => ?_) answers)⟩
  exact ⟨trivial, freed heard ended t ends⟩

end Desk

end Onboarding
