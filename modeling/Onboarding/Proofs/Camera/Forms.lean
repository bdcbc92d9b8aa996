import Onboarding.Proofs.Camera.Attempt
import Onboarding.Proofs.Flow.Conduct

/-! The forms of cameras. From its first form on, and whatever else is done at the desk, a flow
shows the form that goes with what it remembers: the user form asks for credentials, with anything
filled in, and an options flow offers the protocols, with the one that the entry had filled in. -/
namespace Onboarding.Camera

open Desk Job

/-- The form shown goes with what the flow remembers. -/
def Shows (f : Flow Memory) : Prop :=
  match f.memory with
  | .inl _ => f.step = StepName.user →
    ∃ (draft : Draft) (overrides : Bool), f.schema = draft.schema overrides
  | .inr protocol => f.step = StepName.init ∧ f.schema = protocolSchema protocol

/-- A flow keeps its draft with changes, or its protocol without, and once it shows a form that goes
with it, it does so for good. -/
structure Proceeds (f g : Flow Memory) : Prop where
  draft : ∀ draft, f.memory = .inl draft → ∃ draft', g.memory = .inl draft'
  protocol : ∀ protocol, f.memory = .inr protocol → g.memory = .inr protocol
  shows : Shows f → Shows g

def conduct : Conduct Memory where
  goes := Proceeds
  refl _ := ⟨fun draft here => ⟨draft, here⟩, fun _ here => here, fun shows => shows⟩
  trans first second := by
    refine ⟨fun draft here => ?_, fun protocol here => ?_, fun shows => ?_⟩
    · obtain ⟨draft', there⟩ := first.draft draft here
      exact second.draft draft' there
    · exact second.protocol protocol (first.protocol protocol here)
    · exact second.shows (first.shows shows)

/-- Only the user form asks for credentials. -/
def Asks (r : Except StepError Outcome × Draft) : Prop :=
  ∀ p, r.1 = .ok (.form p) → p.step = StepName.user →
    ∃ (draft : Draft) (overrides : Bool), p.schema = draft.schema overrides

theorem asks_part_onboard (input : Data) (i : Identified) (draft : Draft) :
    (Part.onboard input i draft).Ends Asks := by
  intro c
  dsimp only
  split
  · rintro p ⟨⟩
  · intro r
    dsimp only
    split <;> rintro p ⟨⟩

theorem asks_part_repair (input : Data) (i : Identified) (draft : Draft) (id : String) :
    (Part.repair input i draft id).Ends Asks := by
  intro updated
  match updated with
  | .error e => rintro p ⟨⟩
  | .ok false => rintro p ⟨⟩
  | .ok true =>
    rintro reloaded p shows
    rcases repaired_cases reloaded with success | ⟨e, fails⟩
    · cases success.symm.trans shows
    · cases fails.symm.trans shows

theorem asks_afterProbe (input : Data) (outcome : Except Fault Identified) (draft : Draft) :
    (afterProbe input outcome draft).Ends Asks := by
  cases outcome with
  | error f =>
    rintro p ⟨⟩ _
    exact ⟨_, _, rfl⟩
  | ok i =>
    rw [afterProbe_ok]
    intro claim
    match claim with
    | .refused => rintro p ⟨⟩
    | .granted none => exact asks_part_onboard input i draft
    | .granted (some e) =>
      cases reauth : draft.reauth with
      | true =>
        rw [Part.claimed_repair input i e reauth]
        exact asks_part_repair input i draft e.id
      | false =>
        rw [Part.claimed_onboard input i (.inr reauth)]
        exact asks_part_onboard input i draft

theorem asks_userStep (input : Option Data) (draft : Draft) : (userStep input draft).Ends Asks := by
  cases input with
  | none =>
    rintro p ⟨⟩ _
    exact ⟨draft, !Complaint.none.errors.isEmpty, rfl⟩
  | some input =>
    rw [userStep_some]
    intro c h l
    exact asks_afterProbe input h.outcome draft

theorem asks_onboardingSteps (step : String) (input : Option Data) (draft : Draft) :
    (onboardingSteps step input draft).Ends Asks := by
  have confirms (draft : Draft) : (reauthConfirmStep none draft).Ends Asks := by
    rintro p ⟨⟩ user
    exact absurd user (by decide)
  unfold onboardingSteps
  split
  · exact asks_userStep input draft
  split
  · exact confirms _
  split
  · cases input with
    | none => exact confirms draft
    | some input => exact asks_userStep none draft
  · rintro p ⟨⟩

/-- An options flow keeps the protocol that it remembers, and its form fills that one in. -/
def Offers (protocol : String) (r : Except StepError Outcome × String) : Prop :=
  r.2 = protocol ∧ ∀ p, r.1 = .ok (.form p) →
    p.step = StepName.init ∧ p.schema = protocolSchema protocol

theorem offers_optionsSteps (step : String) (input : Option Data) (protocol : String) :
    (optionsSteps step input protocol).Ends (Offers protocol) := by
  unfold optionsSteps
  split
  · cases input with
    | none =>
      refine ⟨rfl, ?_⟩
      rintro p ⟨⟩
      exact ⟨rfl, rfl⟩
    | some input =>
      refine ⟨rfl, ?_⟩
      rintro p ⟨⟩
  · refine ⟨rfl, ?_⟩
    rintro p ⟨⟩

theorem turns_onboarding {f g : Flow Memory} {draft : Draft} (memory : f.memory = .inl draft)
    (goes : Proceeds f g) {r : Except StepError Outcome × Draft} (asks : Asks r) :
    conduct.Turns g (r.1, .inl r.2) := by
  obtain ⟨draft', there⟩ := goes.draft draft memory
  constructor
  · refine ⟨fun _ _ => ⟨r.2, rfl⟩, fun protocol here => ?_, fun shows => ?_⟩
    · cases there.symm.trans here
    · unfold Shows at shows
      rw [there] at shows
      exact shows
  · intro p form
    exact ⟨fun _ _ => ⟨r.2, rfl⟩, by rintro protocol ⟨⟩, fun _ => asks p form⟩

theorem turns_options {f g : Flow Memory} {protocol : String} (memory : f.memory = .inr protocol)
    (goes : Proceeds f g) {r : Except StepError Outcome × String} (offers : Offers protocol r) :
    conduct.Turns g (r.1, .inr r.2) := by
  obtain ⟨kept, form⟩ := offers
  have same : { g with memory := .inr r.2 } = g := by
    rw [kept, ← goes.protocol protocol memory]
  constructor
  · exact same ▸ conduct.refl g
  · intro p shown
    exact ⟨by rintro draft ⟨⟩, fun _ here => here, fun _ => kept ▸ form p shown⟩

theorem kept_conduct : conduct.Kept steps where
  mark {f g} _ memory step schema := by
    refine ⟨fun draft here => ⟨draft, memory.trans here⟩, fun _ here => memory.trans here, ?_⟩
    intro shows
    unfold Shows
    rw [memory, step, schema]
    exact shows
  step f input := by
    cases memory : f.memory with
    | inl draft =>
      refine (asks_onboardingSteps f.step input draft).bind ?_
      intro r asks g _ goes
      exact turns_onboarding memory goes asks
    | inr protocol =>
      refine (offers_optionsSteps f.step input protocol).bind ?_
      intro r offers g _ goes
      exact turns_options memory goes offers

/-! From the first form on. -/

/-- The flow is there, and shows a form that goes with what it remembers. -/
structure Presents (d : Desk Memory) (id : String) (f : Flow Memory) : Prop where
  here : d.flows[id]? = some f
  shows : Shows f

theorem Presents.advance {d t : Desk Memory} {id : String} {f : Flow Memory}
    (presents : Presents d id f) (advanced : Advanced conduct d t) :
    ∃ g, Presents t id g ∧ f.Same g ∧ Proceeds f g := by
  obtain ⟨g, there, same, goes⟩ := advanced.flows id f presents.here
  exact ⟨g, ⟨there, goes.shows presents.shows⟩, same, goes⟩

section Starts

variable {c : Record Memory device} {entryId : String} {e : Entry}

theorem presents_user {handler : String}
    (registered : c.state.integrations[handler]? = some integration) :
    ∃ f draft, Presents (c.happen steps (.call (.start handler .user none))).state
      (Issue.id c.state.issued) f ∧ f.kind = .config ∧ f.memory = .inl draft := by
  let f : Flow Memory := {
    kind := .config
    memory := .inl {}
    context := ⟨Issue.id c.state.issued, handler, .user, 1, none, none⟩
    step := StepName.user
    schema := Draft.schema {} false }
  refine ⟨f, {}, ⟨?_, fun _ => ⟨{}, false, rfl⟩⟩, rfl, rfl⟩
  apply prompt_call (P := fun d => d.flows[Issue.id c.state.issued]? = some f)
  refine Action.obeys_startConfig (fun unknown => ?_) fun i found => ?_
  · cases unknown.symm.trans registered
  · cases found.symm.trans registered
    exact prompt_opens (c := f.context) rfl rfl

theorem presents_reauth (held : c.state.registry.get? entryId = some e)
    (registered : c.state.integrations[e.domain]? = some integration) :
    ∃ f draft, Presents (c.happen steps (.call (.startReauth entryId))).state
      (Issue.id c.state.issued) f ∧ f.kind = .config ∧ f.memory = .inl draft := by
  let f : Flow Memory := {
    kind := .config
    memory := .inl (Draft.ofEntry e.data)
    context := ⟨Issue.id c.state.issued, e.domain, .reauth, 1, none, some entryId⟩
    step := StepName.reauthConfirm
    schema := .empty }
  have other : StepName.reauthConfirm ≠ StepName.user := by decide
  refine ⟨f, Draft.ofEntry e.data, ⟨?_, fun user => absurd user other⟩, rfl, rfl⟩
  apply prompt_call (P := fun d => d.flows[Issue.id c.state.issued]? = some f)
  exact Action.obeys_startReauth_at held registered (prompt_opens (c := f.context) rfl rfl)

theorem presents_options (held : c.state.registry.get? entryId = some e)
    (registered : c.state.integrations[e.domain]? = some integration) :
    ∃ f, Presents (c.happen steps (.call (.startOptions entryId))).state
      (Issue.id c.state.issued) f ∧ f.kind = .options ∧ f.context.entryId = some entryId ∧
        f.memory = .inr (protocolOf e) := by
  let f : Flow Memory := {
    kind := .options
    memory := .inr (protocolOf e)
    context := ⟨Issue.id c.state.issued, entryId, .user, 1, none, some entryId⟩
    step := StepName.init
    schema := protocolSchema (protocolOf e) }
  refine ⟨f, ⟨?_, rfl, rfl⟩, rfl, rfl, rfl⟩
  apply prompt_call (P := fun d => d.flows[Issue.id c.state.issued]? = some f)
  exact Action.obeys_startOptions_at held registered rfl (prompt_opens (c := f.context) rfl rfl)

end Starts

end Onboarding.Camera
