import Onboarding.Flow.Calls
import Onboarding.Proofs.Job.Ensures
import Onboarding.Proofs.Registry.Lifecycle

/-! The writes of the calls on a desk. Whatever the steps of the flows decide and the outside
answers, a write of a call gives out an id, notes something about flows, lists a new flow, updates
an entry, moves one through its lifecycle, or adds one under an id that was just given out. What is
kept by each of these, all calls keep. -/
namespace Onboarding

variable {H : Type} {F : Signature} {α : Type}

/-- Only what the flow remembers, shows and has claimed may differ. -/
structure Flow.Same (f g : Flow H) : Prop where
  kind : g.kind = f.kind
  context : g.context = { f.context with uniqueId := g.context.uniqueId }

theorem Flow.Same.refl (f : Flow H) : f.Same f := ⟨rfl, rfl⟩

theorem Flow.Same.trans {f g h : Flow H} (first : f.Same g) (second : g.Same h) : f.Same h where
  kind := second.kind.trans first.kind
  context := by rw [second.context, first.context]

namespace Desk

/-- One note about flows: they stay the same flows, and no further flow is listed. -/
structure Notes (d t : Desk H) : Prop where
  registry : t.registry = d.registry
  integrations : t.integrations = d.integrations
  issued : t.issued = d.issued
  flows : ∃ g : String → Flow H → Flow H, (∀ id (f : Flow H), f.Same (g id f)) ∧
    ∀ id, t.flows[id]? = d.flows[id]?.map (g id)
  listed : ∀ id, id ∈ t.listed → id ∈ d.listed

theorem flow_modifyFlow (d : Desk H) (id other : String) (g : Flow H → Flow H) :
    (d.modifyFlow id g).flows[other]? =
      d.flows[other]?.map fun f => if id = other then g f else f := by
  simp only [modifyFlow, Std.ExtTreeMap.getElem?_modify, Std.LawfulEqCmp.compare_eq_iff_eq]
  by_cases here : id = other
  · subst here
    simp
  · simp [here]

theorem flow_modifyFlow_self (d : Desk H) (id : String) (g : Flow H → Flow H) :
    (d.modifyFlow id g).flows[id]? = d.flows[id]?.map g := by
  simp only [flow_modifyFlow, if_true]

/-- A change that keeps the flow's context. -/
theorem contextOf_modifyFlow (d : Desk H) (id : String) {g : Flow H → Flow H}
    (same : ∀ f, (g f).context = f.context) : (d.modifyFlow id g).contextOf id = d.contextOf id := by
  rw [contextOf, contextOf, flow_modifyFlow_self, Option.map_map]
  exact congrArg (·.getD default) (Option.map_congr fun f _ => same f)

theorem notes_modifyFlow (d : Desk H) (id : String) {g : Flow H → Flow H}
    (same : ∀ f : Flow H, f.Same (g f)) : d.Notes (d.modifyFlow id g) where
  registry := rfl
  integrations := rfl
  issued := rfl
  flows := by
    refine ⟨fun other f => if id = other then g f else f, fun other f => ?_,
      fun other => d.flow_modifyFlow id other g⟩
    dsimp only
    split
    · exact same f
    · exact .refl f
  listed _ member := member

theorem notes_delist (d : Desk H) (id : String) : d.Notes (d.delist id) where
  registry := rfl
  integrations := rfl
  issued := rfl
  flows := ⟨fun _ f => f, fun _ f => .refl f, fun other => by simp [delist]⟩
  listed other member := Std.ExtTreeSet.mem_of_mem_erase member

theorem notes_refl (d : Desk H) : d.Notes d :=
  ⟨rfl, rfl, rfl, ⟨fun _ f => f, fun _ f => .refl f, fun id => by simp⟩, fun _ member => member⟩

theorem notes_showPage (d : Desk H) (id : String) (p : Page) : d.Notes (d.showPage id p) :=
  have noted := d.notes_modifyFlow id (g := ({ · with step := p.step, schema := p.schema }))
    fun _ => ⟨rfl, rfl⟩
  { noted with }

theorem notes_close (d : Desk H) (id : String) : d.Notes (d.close id) :=
  have noted := d.notes_modifyFlow id (g := ({ · with finished := true })) fun _ => ⟨rfl, rfl⟩
  { noted with listed := fun _ member => Std.ExtTreeSet.mem_of_mem_erase member }

theorem notes_claim (d : Desk H) (id uniqueId : String) (exclusive : Bool) :
    d.Notes (d.claim id uniqueId exclusive).2 := by
  unfold claim
  dsimp only
  split
  · exact d.notes_refl
  · have noted := d.notes_modifyFlow id
      (g := fun f => { f with context := { f.context with uniqueId := some uniqueId } })
      fun _ => ⟨rfl, rfl⟩
    exact { noted with }

/-- What is kept by every write of a call after its flow has been listed. -/
structure Closed (P : Desk H → Prop) (R : Desk H → Desk H → Prop) : Prop where
  note : ∀ {d t}, P d → d.Notes t → P t ∧ R d t
  draw : ∀ {d}, P d → P d.issue.2 ∧ R d d.issue.2
  add : ∀ {d} {e : Entry}, P d → e.id = Issue.id d.issued →
    P (d.issue.2.mutate (·.add e)).2 ∧ R d.issue.2 (d.issue.2.mutate (·.add e)).2
  update : ∀ {d} id u now, P d →
    P (d.mutate (·.update id u now)).2 ∧ R d (d.mutate (·.update id u now)).2
  lifecycle : ∀ d s, P d → Registry.Lifecycle d.registry s →
    P { d with registry := s } ∧ R d { d with registry := s }

variable {P : Desk H → Prop} {R : Desk H → Desk H → Prop}

open Job

namespace Work

/-- An action of the registry keeps what its lifecycle keeps. -/
theorem keeps_host (lifecycle : ∀ d s, P d → Registry.Lifecycle d.registry s →
      P { d with registry := s } ∧ R d { d with registry := s })
    {a : Registry.Action α} (cycles : a.Cycles) :
    (host a : Work H F (Except RegistryError α)).Always P R := by
  intro d kept
  refine keeps_within (fun _ _ => rfl) lifecycle ?_ kept
    (cycles d.registry trivial)
  exact fun q => always_call (F := .desk F) (.hosting q)

theorem keeps_update (closed : Closed P R) (entryId : String) (u : Entry.Update) :
    (modifyGet fun d => d.mutate (·.update entryId u d.now) :
      Work H F (Except RegistryError Bool)).Always P R :=
  always_modifyGet fun d kept => closed.update entryId u d.now kept

theorem keeps_answer (closed : Closed P R) (id : String) (q : StepRequest F) :
    (answer id q : Work H F q.Reply).Always P R := by
  cases q with
  | context => exact always_get_bind fun d => always_pure _
  | registry => exact always_get_bind fun d => always_pure _
  | claim uniqueId exclusive =>
    exact always_modifyGet fun d kept => closed.note kept (d.notes_claim id uniqueId exclusive)
  | update entryId u => exact keeps_update closed entryId u
  | reload entryId => exact keeps_host closed.lifecycle (Registry.Action.cycles_reload entryId)
  | outside q => exact always_call _

end Work

namespace Action

theorem keeps_registerEntry (closed : Closed P R) (c : Context) (title : String)
    (data options : Data) :
    (registerEntry c title data options : Action H F FlowResult.Body).run.Always P R := by
  intro d kept
  refine keeps_run_modifyGet_bind (closed.draw kept) (keeps_run_get_bind ?_)
  have added := closed.add kept (e := { Entry.new (Issue.id d.issued) c.handler title d.now with
    data, options, source := c.source, version := c.version, uniqueId := c.uniqueId }) rfl
  refine keeps_run_modifyGet_bind added ?_
  split
  · trivial
  · trivial
  · refine always_run_bind (always_run_lift ?_) (fun _ => always_pure _) _ added.1
    exact Work.keeps_host closed.lifecycle (Registry.Action.cycles_setUp _)

theorem keeps_ofRegistry (x : Except RegistryError α) :
    (ofRegistry x : Action H F α).run.Always P R := by
  cases x with
  | ok a => exact always_pure _
  | error e => exact always_run_throw _

theorem keeps_storeOptions (closed : Closed P R) (c : Context) (title : String)
    (data options : Data) :
    (storeOptions c title data options : Action H F FlowResult.Body).run.Always P R := by
  unfold storeOptions
  split
  · rename_i entryId _
    refine always_run_bind (always_run_lift (Work.keeps_update closed entryId _)) fun result => ?_
    exact always_run_bind (keeps_ofRegistry result) fun _ => always_pure _
  · exact always_pure _

end Action

end Desk

end Onboarding
