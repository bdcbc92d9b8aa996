import Onboarding.Proofs.Camera.RoundTrip
import Onboarding.Proofs.Flow.Resting

/-! What a submit makes of an onboarding flow. An attempt to log in that fails is kept for the next
form, which has its credentials filled in and asks for the port and the transport as well; a
confirmation is answered by the user form; and whatever else comes of a submit, the flow rests where
it was. -/
namespace Onboarding.Camera

open Desk Job

/-- What a client was made for. -/
def client? (heard : List (Heard (Desk Memory) (.desk device))) : Option Connection :=
  heard.findSome? fun
    | ⟨.device (.client k), _, _⟩ => some k
    | _ => none

/-- What a call has attempted to log in with, if the attempt has failed. -/
def failure? (heard : List (Heard (Desk Memory) (.desk device))) : Option Connection :=
  (told heard).bind fun h => match h.outcome with
    | .error _ => client? heard
    | .ok _ => none

/-- The draft with the credentials of an attempt. -/
def Draft.tried (draft : Draft) (k : Connection) : Draft :=
  { draft with host := some k.host, username := k.username, password := some k.password }

theorem Draft.keep_data (draft : Draft) (l : Login) :
    draft.keep l.data = draft.tried (.ofEntry l.data defaultOptions) := by
  obtain ⟨host, username, password, port, useHttps⟩ := l
  rw [Login.ofEntry_data]
  simp only [keep, tried, Login.connection, Login.data, Data.text?, Data.getElem?_put]
  cases port <;> cases useHttps <;>
    simp [Key.host, Key.username, Key.password, Key.port, Key.useHttps, Value.text?]

section Submit

variable {heard : List (Heard (Desk Memory) (.desk device))} {f g : Flow Memory} {draft : Draft}
  {id : String}

theorem failure_unmet (unmet : Unmet heard) : failure? heard = none := by
  rw [failure?, unmet.1]
  rfl

theorem unmet_of_summons (summons : Summons id heard) : Unmet heard := by
  cases summons with
  | atOnce => exact unmet_nil
  | waited t => exact unmet_nil.await id t

/-- What a submit makes of an onboarding flow. -/
inductive Goes (f : Flow Memory) (heard : List (Heard (Desk Memory) (.desk device))) :
    Except Crash Answer → Flow Memory → Prop where
  | failed {draft : Draft} {k : Connection} {r : FlowResult} {page : Page} {g : Flow Memory}
    (memory : f.memory = .inl draft) (failure : failure? heard = some k)
    (body : r.body = .form page) (user : page.step = StepName.user)
    (schema : page.schema = (draft.tried k).schema true)
    (rests : Flow.Rests { f with
      memory := .inl (draft.tried k), step := page.step, schema := page.schema } g) :
    Goes f heard (.ok (.flow (.ok r))) g
  | asked {draft : Draft} {r : FlowResult} {page : Page} {g : Flow Memory}
    (memory : f.memory = .inl draft) (confirm : f.step = StepName.reauthConfirm)
    (unfailed : failure? heard = none) (body : r.body = .form page)
    (user : page.step = StepName.user) (schema : page.schema = draft.schema false)
    (rests : Flow.Rests { f with
      memory := .inl draft, step := page.step, schema := page.schema } g) :
    Goes f heard (.ok (.flow (.ok r))) g
  | rested {ended : Except Crash Answer} {g : Flow Memory} (unfailed : failure? heard = none)
    (formless : ∀ r page, ended = .ok (.flow (.ok r)) → r.body ≠ .form page)
    (rests : f.Rests g) : Goes f heard ended g

theorem Goes.rests {h : Flow Memory} {ended : Except Crash Answer} (goes : Goes f heard ended g)
    (rests : g.Rests h) : Goes f heard ended h := by
  have later {e : Flow Memory} (before : e.Rests g) : e.Rests h :=
    ⟨rests.memory.trans before.memory, rests.step.trans before.step,
      rests.schema.trans before.schema⟩
  cases goes with
  | failed memory failure body user schema before =>
    exact .failed memory failure body user schema (later before)
  | asked memory confirm unfailed body user schema before =>
    exact .asked memory confirm unfailed body user schema (later before)
  | rested unfailed formless before => exact .rested unfailed formless (later before)

/-- An onboarding flow that waits for a confirmation, or for credentials. -/
inductive Awaits (f : Flow Memory) : Prop where
  | confirmation {draft : Draft} (memory : f.memory = .inl draft)
    (step : f.step = StepName.reauthConfirm)
  | credentials {draft : Draft} {overrides : Bool} (memory : f.memory = .inl draft)
    (step : f.step = StepName.user) (schema : f.schema = draft.schema overrides)

/-! The steps. -/

theorem quiet_part_onboard (input : Data) (i : Identified) (draft : Draft) :
    (Part.onboard input i draft).Ends (Resting.Quiet draft) := by
  intro c
  dsimp only
  split
  · exact ⟨rfl, by rintro page ⟨⟩⟩
  · intro r
    dsimp only
    split <;> exact ⟨rfl, by rintro page ⟨⟩⟩

theorem quiet_part_repair (input : Data) (i : Identified) (draft : Draft) (id : String) :
    (Part.repair input i draft id).Ends (Resting.Quiet draft) := by
  intro updated
  match updated with
  | .error e => exact ⟨rfl, by rintro page ⟨⟩⟩
  | .ok false => exact ⟨rfl, by rintro page ⟨⟩⟩
  | .ok true =>
    refine fun reloaded => ⟨rfl, fun page shows => ?_⟩
    rcases repaired_cases reloaded with success | ⟨e, fails⟩
    · cases success.symm.trans shows
    · cases fails.symm.trans shows

/-- Once a device has been identified no form is shown, and the draft is left as it is. -/
theorem quiet_afterProbe (input : Data) (i : Identified) (draft : Draft) :
    (afterProbe input (.ok i) draft).Ends (Resting.Quiet draft) := by
  rw [afterProbe_ok]
  intro claim
  match claim with
  | .refused => exact ⟨rfl, by rintro page ⟨⟩⟩
  | .granted none => exact quiet_part_onboard input i draft
  | .granted (some e) =>
    cases reauth : draft.reauth with
    | true =>
      rw [Part.claimed_repair input i e reauth]
      exact quiet_part_repair input i draft e.id
    | false =>
      rw [Part.claimed_onboard input i (.inr reauth)]
      exact quiet_part_onboard input i draft

/-! A submit in its turn. -/

section Turn

variable {d : Desk Memory} {kind : FlowKind}

theorem uncalled_of_summons (summons : Summons id heard) : client? heard = none := by
  cases summons <;> rfl

theorem failure_exchanged (summons : Summons id heard) (input : Data) (c : Client) (h : Handshake)
    (l : Except Fault Unit) (d₁ d₂ d₃ : Desk Memory) :
    failure? (heard ++ exchanged input c h l d₁ d₂ d₃) = match h.outcome with
      | .error _ => some (.ofEntry input defaultOptions)
      | .ok _ => none := by
  have called : client? (heard ++ exchanged input c h l d₁ d₂ d₃) =
      some (.ofEntry input defaultOptions) := by
    have before := uncalled_of_summons summons
    rw [client?] at before ⊢
    rw [List.findSome?_append, before]
    rfl
  rw [failure?, told_exchanged (unmet_of_summons summons), Option.bind_some, called]

/-- What is said of a flow when a call on it ends. -/
def goesOn (f : Flow Memory) (id : String) :
    Post (Desk Memory) (.desk device) (Except FlowError FlowResult) := fun heard ended t =>
  makes Goes id f heard (ended.map Answer.flow) t

theorem goesOn_quietly {later : List (Heard (Desk Memory) (.desk device))} {t : Desk Memory}
    {ended : Except Crash (Except FlowError FlowResult)} (unfailed : failure? later = none)
    (quiet : Resting.quietly f id later ended t) : goesOn f id later ended t := by
  obtain ⟨⟨g, here, rests⟩, formless⟩ := quiet
  refine ⟨g, here, .rested unfailed (fun r page answer => ?_) rests⟩
  match ended with
  | .ok (.ok _) =>
    cases answer
    exact formless r page rfl
  | .ok (.error e) => cases answer
  | .error x => cases answer

/-- What a submit does from the logout on. -/
abbrev Finishes (f : Flow Memory) (id : String) (kind : FlowKind) (p : Part)
    (heard : List (Heard (Desk Memory) (.desk device))) (d : Desk Memory) : Prop :=
  Obeys (sitting Memory device id)
    (andObeys (sitting Memory device id) (fun r => (Action.settle id kind r).run) (goesOn f id))
    (Prog.interpret (S := .step device) (Work.answer id) (p.bind fun (a, h) => .done (a, .inl h)))
    heard d

/-- An attempt that has failed is kept for the form. -/
theorem finishes_failed (resting : Resting f id d) (memory : f.memory = .inl draft) (l : Login)
    (failure : failure? heard = some (.ofEntry l.data defaultOptions)) (fault : Fault) :
    Finishes f id kind (afterProbe l.data (.error fault) draft) heard d := by
  refine resting.shown kind fun r t body after => ?_
  obtain ⟨g, there, rests⟩ := after
  refine ⟨g, there, .failed memory failure body rfl ?_ ?_⟩
  · rw [← draft.keep_data]
    cases fault <;> rfl
  · rw [← draft.keep_data]
    exact rests

/-- An attempt that has not failed leaves the flow where it was. -/
theorem finishes_identified {h : Handshake} {i : Identified} (resting : Resting f id d)
    (memory : f.memory = .inl draft) (informed : told heard = some h) (outcome : h.outcome = .ok i)
    (input : Data) : Finishes f id kind (afterProbe input (.ok i) draft) heard d := by
  have quiet : Prog.Ends (Resting.Quiet f.memory)
      ((afterProbe input (.ok i) draft).bind fun (a, h) => .done (a, (.inl h : Memory))) := by
    refine (quiet_afterProbe input i draft).bind fun r quiet => ?_
    exact ⟨(congrArg Sum.inl quiet.kept).trans memory.symm, quiet.formless⟩
  refine obeys_bind.mp (obeys_imp (fun later ended t ends => ?_)
    (obeys_grown (obeys_bind.mpr (resting.program kind quiet))))
  have informed : told later = some h := ends.1.findSome?_eq_some informed
  refine goesOn_quietly ?_ ends.2
  rw [failure?, informed, Option.bind_some, outcome]

/-- What is submitted to the user form is attempted. -/
theorem sitting_attempt (summons : Summons id heard) (resting : Resting f id d)
    (memory : f.memory = .inl draft) (l : Login) :
    (Action.takeStep steps id StepName.user (some l.data)).run.Obeys (sitting Memory device id)
      (goesOn f id) heard d := by
  obtain ⟨g, here, rests⟩ := resting
  have same : steps StepName.user (some l.data) g.memory =
      (userStep (some l.data) draft).bind fun (a, h) => .done (a, .inl h) := by
    rw [rests.memory, memory]
    rfl
  rw [Action.obeys_takeStep_iff here, same, userStep_some]
  refine ⟨by rintro other ⟨⟩, fun c d₁ found₁ => ⟨by rintro other ⟨⟩, fun h d₂ found₂ =>
    ⟨by rintro other ⟨⟩, fun o d₃ found₃ => ?_⟩⟩⟩
  have resting : Resting f id d₃ :=
    Resting.same ⟨g, here, rests⟩ (found₃.trans (found₂.trans found₁))
  have told : told (heard ++ exchanged l.data c h o d₁ d₂ d₃) = some h :=
    told_exchanged (unmet_of_summons summons)
  have failure := failure_exchanged summons l.data c h o d₁ d₂ d₃
  rw [exchanged, List.append_cons, List.append_cons] at told failure
  change Finishes f id g.kind (afterProbe l.data h.outcome draft) _ d₃
  cases outcome : h.outcome with
  | error fault =>
    rw [outcome] at failure
    exact finishes_failed resting memory l failure fault
  | ok i => exact finishes_identified resting memory told outcome l.data

/-- A confirmation is answered by the user form, with the draft filled in. -/
theorem sitting_confirmation (unfailed : failure? heard = none) (resting : Resting f id d)
    (memory : f.memory = .inl draft) (confirm : f.step = StepName.reauthConfirm) (clean : Data) :
    (Action.takeStep steps id f.step (some clean)).run.Obeys (sitting Memory device id)
      (goesOn f id) heard d := by
  obtain ⟨g, here, rests⟩ := resting
  have asks : steps f.step (some clean) g.memory =
      .done (.ok (.form ⟨StepName.user, draft.schema false, ∅, Complaint.wording ""⟩),
        .inl draft) := by
    rw [confirm, rests.memory, memory]
    rfl
  rw [Action.obeys_takeStep_iff here, asks]
  refine Resting.shown (f := f) ⟨g, here, rests⟩ g.kind fun r t body after => ?_
  obtain ⟨g', there, rests⟩ := after
  exact ⟨g', there, .asked memory confirm unfailed body rfl rfl rests⟩

/-- In its turn a submit makes of an onboarding flow what it may make of it. -/
theorem sitting_submit (summons : Summons id heard) (here : d.flows[id]? = some f)
    (awaits : Awaits f) (input : Data) :
    (turnJob steps id input).Obeys (sitting Memory device id) (goesOn f id) heard d := by
  have unfailed := failure_unmet (unmet_of_summons summons)
  refine sitting_turnJob here (fun heard ended t goes => ?_) (fun e t resting => ?_)
    fun clean t valid resting => ?_
  · obtain ⟨g, there, goes⟩ := goes
    refine ⟨{ g with busy := false }, ?_, goes.rests ⟨rfl, rfl, rfl⟩⟩
    rw [flow_modifyFlow_self, there]
    rfl
  · exact goesOn_quietly unfailed ⟨resting, by rintro r page ⟨⟩⟩
  · cases awaits with
    | confirmation memory confirm =>
      exact sitting_confirmation unfailed resting memory confirm clean
    | credentials memory user schema =>
      rw [schema] at valid
      obtain ⟨l, rfl, _⟩ := login_of_valid valid
      rw [user]
      exact sitting_attempt summons resting memory l

theorem sits_steps (id : String) : Sits steps id Awaits Goes where
  refused f awaits := .rested rfl (by rintro r page ⟨⟩) ⟨rfl, rfl, rfl⟩
  turn input here awaits summons := obeys_map.mpr (sitting_submit summons here awaits input)
  kept {f heard ended g} awaits goes := by
    cases goes with
    | failed memory failure body user schema rests =>
      exact .credentials rests.memory (rests.step.trans user) (rests.schema.trans schema)
    | asked memory confirm unfailed body user schema rests =>
      exact .credentials rests.memory (rests.step.trans user) (rests.schema.trans schema)
    | rested unfailed formless rests =>
      cases awaits with
      | confirmation memory step =>
        exact .confirmation (rests.memory.trans memory) (rests.step.trans step)
      | credentials memory step schema =>
        exact .credentials (rests.memory.trans memory) (rests.step.trans step)
          (rests.schema.trans schema)

end Turn

end Submit

end Onboarding.Camera
