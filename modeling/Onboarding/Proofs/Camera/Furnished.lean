import Onboarding.Proofs.Camera.Attempt
import Onboarding.Proofs.Flow.Record

/-! Desks at which cameras are onboarded. What a flow remembers goes with its kind and with how it
was started, whatever is done at the desk: a flow is to repair an entry exactly if it is for reauth.
-/
namespace Onboarding.Camera

open Desk

variable {d t u : Desk Memory} {f g : Flow Memory} {id : String} {draft : Draft}

/-- What a flow remembers goes with its kind. Only before the first step of a reauth flow has been
taken, its draft does not say yet that it is one. -/
inductive Fits (f : Flow Memory) : Prop where
  | onboarding {draft : Draft} (kind : f.kind = .config) (memory : f.memory = .inl draft)
    (handler : f.context.handler = domain)
    (first : f.step = StepName.reauth → f.context.source = .reauth)
    (reauth : f.step ≠ StepName.reauth → (draft.reauth = true ↔ f.context.source = .reauth))
  | options {protocol : String} (kind : f.kind = .options) (memory : f.memory = .inr protocol)

theorem Fits.same (fits : Fits f) (same : f.Same g) (memory : g.memory = f.memory)
    (step : g.step = f.step) : Fits g := by
  cases fits with
  | onboarding kind remembers handler first reauth =>
    refine .onboarding (same.kind.trans kind) (memory.trans remembers) ?_ ?_ ?_ <;> rw [same.context]
    · exact handler
    · exact step ▸ first
    · exact step ▸ reauth
  | options kind remembers => exact .options (same.kind.trans kind) (memory.trans remembers)

/-- The flow onboards a device, and with this draft it is to repair an entry exactly if it is for
reauth. -/
structure Suits (draft : Draft) (f : Flow Memory) : Prop where
  kind : f.kind = .config
  handler : f.context.handler = domain
  reauth : draft.reauth = true ↔ f.context.source = .reauth

theorem Suits.same (suits : Suits draft f) (same : f.Same g) : Suits draft g := by
  refine ⟨same.kind.trans suits.kind, ?_, ?_⟩ <;> rw [same.context]
  · exact suits.handler
  · exact suits.reauth

/-- A draft that suits a flow may be put down for it. -/
theorem Fits.remember (fits : Fits f) (suits : Suits draft f) :
    Fits { f with memory := .inl draft } := by
  cases fits with
  | onboarding kind memory handler first reauth =>
    exact .onboarding kind rfl handler first fun _ => suits.reauth
  | options kind => cases suits.kind.symm.trans kind

/-- With a draft that suits the flow any form may be shown but that of the first step of a reauth.
-/
theorem Suits.page (suits : Suits draft f) {p : Page} (other : p.step ≠ StepName.reauth) :
    Fits { f with memory := .inl draft, step := p.step, schema := p.schema } :=
  .onboarding suits.kind rfl suits.handler (fun first => absurd first other) fun _ => suits.reauth

/-- Only cameras are onboarded at the desk, and their flows fit. -/
structure Furnished (d : Desk Memory) : Prop where
  numbered : d.Numbered
  integrations : ∀ (handler : String) (i : Integration Memory),
    d.integrations[handler]? = some i → handler = domain ∧ i = integration
  flows : ∀ (id : String) (f : Flow Memory), d.flows[id]? = some f → Fits f

theorem Furnished.note (furnished : Furnished d) (notes : d.Notes t)
    (flows : ∀ (id : String) (f : Flow Memory), t.flows[id]? = some f → Fits f) :
    Furnished t ∧ Later d t :=
  have ⟨numbered, later⟩ := furnished.numbered.note notes
  ⟨⟨numbered, notes.integrations ▸ furnished.integrations, flows⟩, later⟩

theorem Furnished.aside (furnished : Furnished d) (integrations : t.integrations = d.integrations)
    (flows : t.flows = d.flows) (listed : t.listed = d.listed) (issued : t.issued = d.issued) :
    Furnished t ∧ Later d t :=
  have ⟨numbered, later⟩ := furnished.numbered.aside flows listed issued
  ⟨⟨numbered, integrations ▸ furnished.integrations, flows ▸ furnished.flows⟩, later⟩

theorem Furnished.issue (furnished : Furnished d) : Furnished d.issue.2 ∧ Later d d.issue.2 :=
  have ⟨numbered, later⟩ := furnished.numbered.issue
  ⟨⟨numbered, furnished.integrations, furnished.flows⟩, later⟩

theorem Furnished.integrate (furnished : Furnished d) :
    Furnished { d with integrations := d.integrations.insert domain integration } ∧
      Later d { d with integrations := d.integrations.insert domain integration } := by
  have ⟨numbered, later⟩ := furnished.numbered.aside (t := { d with
    integrations := d.integrations.insert domain integration }) rfl rfl rfl
  refine ⟨⟨numbered, fun handler i here => ?_, furnished.flows⟩, later⟩
  rw [Std.ExtTreeMap.getElem?_insert] at here
  split at here
  · rename_i same
    cases here
    exact ⟨(Std.LawfulEqCmp.compare_eq_iff_eq.mp same).symm, rfl⟩
  · exact furnished.integrations handler i here

/-- The flow that a start lists fits. -/
theorem Furnished.opening (furnished : Furnished d) {kind : FlowKind} {memory : Memory}
    {c : Context} {step : String} {data : Option Data}
    (opening : Action.Opening d kind memory c step data) :
    Fits { kind, memory, context := c, step, schema := .empty, busy := true } := by
  cases opening with
  | @config i handler source data registered =>
    obtain ⟨rfl, rfl⟩ := furnished.integrations handler i registered
    cases source with
    | user =>
      have other : Source.user.key ≠ StepName.reauth := by decide
      exact .onboarding rfl rfl rfl (fun first => absurd first other)
        fun _ => ⟨by rintro ⟨⟩, by rintro ⟨⟩⟩
    | reauth => exact .onboarding rfl rfl rfl (fun _ => rfl) (fun other => absurd rfl other)
  | @reauth i e entryId held registered =>
    obtain ⟨here, rfl⟩ := furnished.integrations e.domain i registered
    exact .onboarding rfl rfl here (fun _ => rfl) (fun other => absurd rfl other)
  | @options i e entryId memory held registered has =>
    obtain ⟨here, rfl⟩ := furnished.integrations e.domain i registered
    cases has
    exact .options rfl rfl

theorem Furnished.enroll (furnished : Furnished d) {kind : FlowKind} {memory : Memory} {c : Context}
    {step : String} {data : Option Data} (opening : Action.Opening d kind memory c step data) :
    Furnished (d.issue.2.enroll kind memory c step) ∧
      Later d.issue.2 (d.issue.2.enroll kind memory c step) := by
  have ⟨numbered, later⟩ := furnished.numbered.enroll kind memory step opening.flowId
  refine ⟨⟨numbered, furnished.integrations, fun id f here => ?_⟩, later⟩
  rw [flow_enroll] at here
  split at here
  · cases here
    exact furnished.opening opening
  · exact furnished.flows id f here

theorem Furnished.flow_modifyFlow (furnished : Furnished d) (id : String)
    (change : Flow Memory → Flow Memory) (fits : ∀ f, d.flows[id]? = some f → Fits (change f))
    (other : String) (f : Flow Memory)
    (here : (d.modifyFlow id change).flows[other]? = some f) : Fits f := by
  rw [Desk.flow_modifyFlow, Option.map_eq_some_iff] at here
  obtain ⟨old, before, rfl⟩ := here
  split
  · rename_i same
    exact fits old (same ▸ before)
  · exact furnished.flows other old before

end Onboarding.Camera
