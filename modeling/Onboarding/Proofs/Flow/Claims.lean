import Onboarding.Proofs.Flow.Listing
import Onboarding.Proofs.Flow.Restart

/-! Claims of unique ids. Where the flows of a handler claim unique ids only while no other flow of
it holds them, no two of them ever hold the same in progress. A claim is refused on account of a
flow in progress only, and leaves everything as it was. -/
namespace Onboarding.Desk

variable {H : Type} {F : Signature} {u : Practice H} {d : Desk H} {id g : String}

/-- A flow in progress holds a unique id for its handler. -/
structure Holds (d : Desk H) (id handler uniqueId : String) : Prop where
  listed : id ∈ d.listed
  flow : ∃ f, d.flows[id]? = some f ∧ f.finished = false ∧ f.context.handler = handler ∧
    f.context.uniqueId = some uniqueId

/-- No two flows in progress of the handler hold the same unique id. -/
def Apart (d : Desk H) (handler : String) : Prop :=
  ∀ (id other : String) (row row' : Progress), d.progress[id]? = some row →
    d.progress[other]? = some row' → row.handler = handler → row'.handler = handler →
    row.uniqueId ≠ none → row.uniqueId = row'.uniqueId → id = other

/-- A claim is refused where it is to be exclusive and another flow in progress holds the id. -/
theorem Sound.refused_iff (sound : d.Sound u) {f : Flow H} (here : d.flows[id]? = some f)
    (uniqueId : String) (exclusive : Bool) :
    (d.claim id uniqueId exclusive).1 = .refused ↔
      exclusive = true ∧ ∃ other, other ≠ id ∧ d.Holds other f.context.handler uniqueId := by
  have context : d.contextOf id = f.context := by
    rw [contextOf, here]
    rfl
  have held : d.heldByOther f.context uniqueId = true ↔
      ∃ other, other ≠ id ∧ d.Holds other f.context.handler uniqueId := by
    rw [sound.heldByOther, (sound.numbered.flows id f here).1]
    constructor
    · rintro ⟨other, f', apart, listed, there, unfinished, handler, holds⟩
      exact ⟨other, apart, listed, f', there, unfinished, handler, holds⟩
    · rintro ⟨other, apart, listed, f', there, unfinished, handler, holds⟩
      exact ⟨other, f', apart, listed, there, unfinished, handler, holds⟩
  rw [← held, ← Bool.and_eq_true]
  unfold Desk.claim
  dsimp only
  rw [context]
  constructor
  · intro refused
    split at refused
    · assumption
    · cases refused
  · intro holds
    rw [if_pos holds]

/-- A claim that is refused changes nothing. -/
theorem claim_refused {uniqueId : String} {exclusive : Bool}
    (refused : (d.claim id uniqueId exclusive).1 = .refused) :
    (d.claim id uniqueId exclusive).2 = d := by
  unfold Desk.claim at refused ⊢
  dsimp only at refused ⊢
  split at refused
  · rename_i holds
    rw [if_pos holds]
  · cases refused

/-- How the claims of a flow are answered. -/
structure Answers (F : Signature) (d : Desk H) (id uniqueId : String) (exclusive : Bool) : Prop where
  refused : ∀ f, d.flows[id]? = some f →
    ((Job.advance (Work.answer id (.claim uniqueId exclusive) : Work H F Claim) d).1 =
      .done .refused ↔
      exclusive = true ∧ ∃ other, other ≠ id ∧ d.Holds other f.context.handler uniqueId)
  kept : (Job.advance (Work.answer id (.claim uniqueId exclusive) : Work H F Claim) d).1 =
    .done .refused →
      (Job.advance (Work.answer id (.claim uniqueId exclusive) : Work H F Claim) d).2 = d

theorem Sound.answers (sound : d.Sound u) (id uniqueId : String) (exclusive : Bool) :
    d.Answers F id uniqueId exclusive where
  refused f here := by
    refine Iff.trans ?_ (sound.refused_iff here uniqueId exclusive)
    constructor
    · intro answer
      exact Stage.done.inj answer
    · intro refused
      exact congrArg Stage.done refused
  kept answer := claim_refused (Stage.done.inj answer)

/-- Where the flows of a handler claim unique ids exclusively, no two of them hold the same at any
moment of any run. At every moment a claim is refused exactly if it is to be exclusive and another
flow in progress of the same handler holds the id, and then it changes nothing; and a flow that has
come to its end holds no id any more. -/
theorem claims_exclusive (steps : Steps H F) (handled : Std.ExtTreeSet String) (now : Instant)
    {handler : String} {memory : H → Prop} {events : List (Event H F)}
    (trains : Practice.Trains ⟨(· = handler), memory⟩ steps)
    (admits : ∀ domain i, .integrate domain i ∈ events →
      Practice.Admits ⟨(· = handler), memory⟩ domain i)
    (turns : (Record.opened handled now).TakesTurns steps events) :
    let c := (Record.opened handled now).after steps events
    (∀ d ∈ c.seen, d.Apart handler) ∧
    (∀ d ∈ c.seen, ∀ id uniqueId exclusive, d.Answers F id uniqueId exclusive) ∧
    ∀ id, Record.Ends steps (Record.opened handled now) events id →
      ∀ handler uniqueId, ¬ c.state.Holds id handler uniqueId := by
  intro c
  have ledger := ledger_after trains admits turns
  refine ⟨?_, ?_, ?_⟩
  · intro d member id other row row' here there itself same claimed equal
    exact (ledger.moments d member).1.apart id other row row' here there (itself.trans same.symm)
      itself claimed equal
  · intro d member id uniqueId exclusive
    exact (ledger.moments d member).1.answers id uniqueId exclusive
  · intro id ends handler uniqueId holds
    exact (ends.off trains admits turns).unlisted holds.listed

/-- Flows that claim a unique id and show a form. -/
def labelSteps : Steps Unit Silence := fun _ _ => do
  let _ ← Step.claim "x" true
  return .form ⟨"user", .empty, ∅, ∅⟩

/-- Two flows that are after the same label. -/
def labelling : List (Event Unit Silence) :=
  [.integrate "light" { start := (), options := fun _ => none }, .call (.start "light" .user none),
    .call (.start "light" .user none)]

/-- The second flow is turned away, and only the first one holds the label. -/
theorem labels_apart :
    let c := (Record.opened ∅ .epoch).after labelSteps labelling
    Practice.Trains ⟨(· = "light"), fun _ => True⟩ labelSteps ∧
    c.state.Apart "light" ∧
    c.state.progress.toList.map (fun row => (row.1, row.2.uniqueId)) = [(Issue.id 0, some "x")] ∧
    ¬ c.state.Holds (Issue.id 1) "light" "x" := by
  intro c
  have trains : Practice.Trains ⟨(· = "light"), fun _ => True⟩ labelSteps := by
    intro name input memory handler _ _
    refine ⟨by rintro ⟨⟩, fun r _ => ?_⟩
    cases r <;> trivial
  have admits (domain : String) (i : Integration Unit) (_ : .integrate domain i ∈ labelling) :
      Practice.Admits ⟨(· = "light"), fun _ => True⟩ domain i :=
    ⟨fun _ => trivial, fun _ _ _ _ => trivial⟩
  have turns : (Record.opened ∅ .epoch).TakesTurns labelSteps labelling :=
    ⟨trivial, trivial, trivial, trivial⟩
  obtain ⟨apart, _, ended⟩ := claims_exclusive labelSteps ∅ .epoch trains admits turns
  refine ⟨trains, apart _ (List.mem_cons_self ..), rfl, ended _ ?_ _ _⟩
  exact .answered (List.mem_cons_self ..) ⟨_, rfl, rfl, rfl⟩

end Onboarding.Desk
