import Onboarding.Proofs.Flow.Course
import Onboarding.Proofs.Job.Contract

/-! The record of a desk: whatever is done at it, by whom, and for which flow. Calls act for the
flow that they answer or start, and name it in their answers. A flow that is off the lists is never
listed again. -/
namespace Onboarding.Desk

variable {H : Type} {F : Signature} {d t u : Desk H}

/-- The answer to a call on a flow, or to an errand of the registry. -/
inductive Answer where
  | flow (r : Except FlowError FlowResult)
  | errand (r : Except RegistryError Unit)

/-- Calls act for flows, errands for none. -/
abbrev Record (H : Type) (F : Signature) := Chronicle (Option String) (Desk H) (.desk F) Answer

/-- The flow that a call acts for: a start acts for the flow that it is about to list. -/
def Call.flow (d : Desk H) : Call → String
  | submit id _ => id
  | _ => Issue.id d.issued

def Call.job (steps : Steps H F) (c : Call) : Work H F Answer := do
  return .flow (← (c.action steps).run)

def errandJob (e : Registry.Errand) : Work H F Answer := do
  return .errand (← Work.host e.action)

namespace Record

variable (steps : Steps H F)

def happen (c : Record H F) : Event H F → Record H F
  | .change change => c.put (c.state.changed change)
  | .errand e => c.start none (errandJob e)
  | .call call => c.start (some (call.flow c.state)) (call.job steps)
  | .abort id => c.put (c.state.abort id).1
  | .issue => c.put c.state.issue.2
  | .integrate domain i =>
    c.put { c.state with integrations := c.state.integrations.insert domain i }
  | .time now => c.put { c.state with now }
  | .reply place say => c.reply place say

def after (c : Record H F) (events : List (Event H F)) : Record H F :=
  events.foldl (happen steps) c

/-- Every event on the way meets a condition on the desk that it comes to. -/
def Throughout (A : Desk H → Event H F → Prop) : Record H F → List (Event H F) → Prop
  | _, [] => True
  | c, event :: events => A c.state event ∧ Throughout A (happen steps c event) events

/-- A desk without a file, before anything was registered. -/
def opened (handled : Std.ExtTreeSet String) (now : Instant) : Record H F where
  state := { registry := Registry.onDisk {} handled, now }

variable {steps} in
/-- What is so of all events whatever the desk, is so throughout. -/
theorem throughout {A : Desk H → Event H F → Prop} {events : List (Event H F)}
    (allowed : ∀ event ∈ events, ∀ d, A d event) (c : Record H F) : Throughout steps A c events := by
  induction events generalizing c with
  | nil => trivial
  | cons event events ih =>
    have others := ih fun event member => allowed event (List.mem_cons_of_mem _ member)
    exact ⟨allowed event (List.mem_cons_self ..) c.state, others (happen steps c event)⟩

end Record

/-- A contract that is met by whatever happens at a desk under a condition. -/
structure Serves (steps : Steps H F) (K : Contract (Option String) (Desk H) (.desk F) Answer)
    (A : Desk H → Event H F → Prop) : Prop where
  change : ∀ {d c}, K.holds d → A d (.change c) → K.holds (d.changed c) ∧ K.later d (d.changed c)
  abort : ∀ {d id}, K.holds d → A d (.abort id) →
    K.holds (d.abort id).1 ∧ K.later d (d.abort id).1
  issue : ∀ {d}, K.holds d → A d .issue → K.holds d.issue.2 ∧ K.later d d.issue.2
  integrate : ∀ {d : Desk H} {domain i}, K.holds d → A d (.integrate domain i) →
    K.holds { d with integrations := d.integrations.insert domain i } ∧
      K.later d { d with integrations := d.integrations.insert domain i }
  time : ∀ {d : Desk H} {now}, K.holds d → A d (.time now) →
    K.holds { d with now } ∧ K.later d { d with now }
  errand : ∀ {d e number}, K.holds d → A d (.errand e) →
    K.Meets ⟨number, none⟩ (errandJob e) [] d
  reply : ∀ {d place say}, A d (.reply place say) → ∀ q r, say q = some r → K.hears q r
  call : ∀ {d c number}, K.holds d → A d (.call c) →
    K.Meets ⟨number, some (c.flow d)⟩ (c.job steps) [] d

namespace Serves

variable {steps : Steps H F} {K : Contract (Option String) (Desk H) (.desk F) Answer}
  {A : Desk H → Event H F → Prop} {c : Record H F}

theorem happen (serves : Serves steps K A) (honours : c.Honours K) {event : Event H F}
    (allowed : A c.state event) : (c.happen steps event).Honours K := by
  have now := honours.state
  cases event with
  | change change =>
    obtain ⟨kept, later⟩ := serves.change now allowed
    exact honours.put kept later
  | errand e => exact honours.start (serves.errand now allowed)
  | call call => exact honours.start (serves.call now allowed)
  | abort id =>
    obtain ⟨kept, later⟩ := serves.abort now allowed
    exact honours.put kept later
  | issue =>
    obtain ⟨kept, later⟩ := serves.issue now allowed
    exact honours.put kept later
  | integrate domain i =>
    obtain ⟨kept, later⟩ := serves.integrate now allowed
    exact honours.put kept later
  | time now' =>
    obtain ⟨kept, later⟩ := serves.time now allowed
    exact honours.put kept later
  | reply place say => exact honours.reply place (serves.reply allowed)

theorem after (serves : Serves steps K A) (honours : c.Honours K) {events : List (Event H F)}
    (allowed : Record.Throughout steps A c events) : (c.after steps events).Honours K :=
  (foldl_induction
    (motive := fun (v : Record H F) later => v.Honours K ∧ Record.Throughout steps A v later)
    ⟨honours, allowed⟩ fun _ _ _ ⟨honours, allowed⟩ =>
      ⟨serves.happen honours allowed.1, allowed.2⟩).1

theorem later_happen (serves : Serves steps K A) (honours : c.Honours K) {event : Event H F}
    (allowed : A c.state event) : K.later c.state (c.happen steps event).state := by
  have now := honours.state
  cases event with
  | change change => exact (serves.change now allowed).2
  | errand e =>
    exact Chronicle.later_follow (c := { c with begun := c.begun + 1 }) (serves.errand now allowed)
  | call call =>
    exact Chronicle.later_follow (c := { c with begun := c.begun + 1 }) (serves.call now allowed)
  | abort id => exact (serves.abort now allowed).2
  | issue => exact (serves.issue now allowed).2
  | integrate domain i => exact (serves.integrate now allowed).2
  | time now' => exact (serves.time now allowed).2
  | reply place say => exact honours.later_reply place (serves.reply allowed)

/-- Where a run ends is later than where it began. -/
theorem later_after (serves : Serves steps K A) (honours : c.Honours K)
    {events : List (Event H F)} (allowed : Record.Throughout steps A c events) :
    K.later c.state (c.after steps events).state := by
  refine (foldl_induction
    (motive := fun (v : Record H F) later => K.later c.state v.state ∧ v.Honours K ∧
      Record.Throughout steps A v later)
    ⟨K.refl _, honours, allowed⟩ fun v event later ⟨since, honours, allowed⟩ => ?_).1
  exact ⟨K.trans since (serves.later_happen honours allowed.1), serves.happen honours allowed.1,
    allowed.2⟩

end Serves

/-- Flows are filed under their ids, which have been given out, and only flows are listed. -/
structure Numbered (d : Desk H) : Prop where
  flows : ∀ (id : String) (f : Flow H), d.flows[id]? = some f →
    f.context.flowId = id ∧ ∃ n < d.issued, id = Issue.id n
  listed : ∀ id : String, id ∈ d.listed → ∃ f, d.flows[id]? = some f

/-- Flows stay the flows they are, and only new ones are listed. -/
structure Later (d t : Desk H) : Prop where
  flows : ∀ (id : String) (f : Flow H), d.flows[id]? = some f →
    ∃ g, t.flows[id]? = some g ∧ f.Same g
  listed : ∀ id : String, id ∈ t.listed → id ∈ d.listed ∨ d.flows[id]? = none

theorem Later.refl (d : Desk H) : Later d d :=
  ⟨fun _ f here => ⟨f, here, .refl f⟩, fun _ => .inl⟩

theorem Later.trans (first : Later d t) (second : Later t u) : Later d u where
  flows id f here := by
    obtain ⟨g, there, same⟩ := first.flows id f here
    obtain ⟨h, further, same'⟩ := second.flows id g there
    exact ⟨h, further, same.trans same'⟩
  listed id member := by
    rcases second.listed id member with there | none
    · exact first.listed id there
    · cases here : d.flows[id]? with
      | none => exact .inr rfl
      | some f =>
        obtain ⟨g, there, _⟩ := first.flows id f here
        cases none.symm.trans there

/-- A desk whose flows are the same is as well numbered, whatever its registry. -/
theorem Numbered.aside (numbered : d.Numbered) (flows : t.flows = d.flows)
    (listed : t.listed = d.listed) (issued : t.issued = d.issued) : t.Numbered ∧ Later d t :=
  ⟨⟨by rw [flows, issued]; exact numbered.flows, by rw [flows, listed]; exact numbered.listed⟩,
    ⟨by rw [flows]; exact (Later.refl d).flows, by rw [listed]; exact (Later.refl d).listed⟩⟩

theorem Numbered.note (numbered : d.Numbered) (notes : d.Notes t) : t.Numbered ∧ Later d t := by
  obtain ⟨g, same, flows⟩ := notes.flows
  refine ⟨⟨fun id f here => ?_, fun id member => ?_⟩, ⟨fun id f here => ?_, fun id member => ?_⟩⟩
  · rw [flows, Option.map_eq_some_iff] at here
    obtain ⟨old, before, rfl⟩ := here
    rw [notes.issued, (same id old).context]
    exact numbered.flows id old before
  · obtain ⟨f, before⟩ := numbered.listed id (notes.listed id member)
    exact ⟨g id f, by rw [flows, before]; rfl⟩
  · exact ⟨g id f, by rw [flows, here]; rfl, same id f⟩
  · exact .inl (notes.listed id member)

theorem Numbered.issue (numbered : d.Numbered) : d.issue.2.Numbered ∧ Later d d.issue.2 := by
  refine ⟨⟨fun id f here => ?_, numbered.listed⟩, ⟨(Later.refl d).flows, (Later.refl d).listed⟩⟩
  obtain ⟨named, n, given, rfl⟩ := numbered.flows id f here
  exact ⟨named, n, Nat.lt_succ_of_lt given, rfl⟩

theorem Numbered.fresh (numbered : d.Numbered) : d.flows[Issue.id d.issued]? = none := by
  rw [← Option.not_isSome_iff_eq_none]
  intro here
  obtain ⟨f, here⟩ := Option.isSome_iff_exists.mp here
  obtain ⟨_, n, given, same⟩ := numbered.flows _ f here
  exact absurd given (Issue.id_inj same ▸ Nat.lt_irrefl _)

theorem flow_enroll (d : Desk H) (kind : FlowKind) (memory : H) (c : Context) (step : String)
    (id : String) : (d.enroll kind memory c step).flows[id]? =
      if c.flowId = id then
        some { kind, memory, context := c, step, schema := .empty, busy := true }
      else d.flows[id]? := by
  simp [enroll, Std.ExtTreeMap.getElem?_insert]

theorem listed_enroll {kind : FlowKind} {memory : H} {c : Context} {step id : String} :
    id ∈ (d.enroll kind memory c step).listed ↔ c.flowId = id ∨ id ∈ d.listed := by
  simp [enroll, Std.ExtTreeSet.mem_insert]

theorem Numbered.enroll (numbered : d.Numbered) (kind : FlowKind) (memory : H) {c : Context}
    (step : String) (given : c.flowId = Issue.id d.issued) :
    (d.issue.2.enroll kind memory c step).Numbered ∧
      Later d.issue.2 (d.issue.2.enroll kind memory c step) := by
  have fresh : d.flows[c.flowId]? = none := given ▸ numbered.fresh
  have issued := numbered.issue.1
  refine ⟨⟨fun id f here => ?_, fun id member => ?_⟩, ⟨fun id f here => ?_, fun id member => ?_⟩⟩
  · rw [flow_enroll] at here
    split at here
    · rename_i same
      cases here
      exact ⟨same, d.issued, Nat.lt_succ_self _, same ▸ given⟩
    · exact issued.flows id f here
  · rw [flow_enroll]
    split
    · exact ⟨_, rfl⟩
    · rename_i other
      exact issued.listed id ((listed_enroll.mp member).resolve_left other)
  · have other : c.flowId ≠ id := by
      rintro rfl
      cases fresh.symm.trans here
    exact ⟨f, by rw [flow_enroll, if_neg other, here], .refl f⟩
  · rcases listed_enroll.mp member with rfl | member
    · exact .inr fresh
    · exact .inl member

theorem closed_numbered : Closed (Numbered (H := H)) Later where
  note numbered notes := numbered.note notes
  draw numbered := numbered.issue
  add numbered _ := numbered.issue.1.aside rfl rfl rfl
  update _ _ _ numbered := numbered.aside rfl rfl rfl
  lifecycle _ _ numbered _ := numbered.aside rfl rfl rfl

/-- What is kept from one state to the next is kept from a first state on. -/
theorem Closed.since {P : Desk H → Prop} (closed : Closed P Later) (first : Desk H) :
    Closed (fun d => P d ∧ Later first d) Later where
  note kept notes :=
    have ⟨kept', later⟩ := closed.note kept.1 notes
    ⟨⟨kept', kept.2.trans later⟩, later⟩
  draw kept :=
    have ⟨kept', later⟩ := closed.draw kept.1
    ⟨⟨kept', kept.2.trans later⟩, later⟩
  add kept given :=
    have ⟨_, drawn⟩ := closed.draw kept.1
    have ⟨kept', later⟩ := closed.add kept.1 given
    ⟨⟨kept', kept.2.trans (drawn.trans later)⟩, later⟩
  update id u now kept :=
    have ⟨kept', later⟩ := closed.update id u now kept.1
    ⟨⟨kept', kept.2.trans later⟩, later⟩
  lifecycle d s kept moved :=
    have ⟨kept', later⟩ := closed.lifecycle d s kept.1 moved
    ⟨⟨kept', kept.2.trans later⟩, later⟩

/-- Flows keep their places, and every answer names the flow that it was given for. -/
def named : Contract (Option String) (Desk H) (.desk F) Answer where
  holds := Numbered
  later := Later
  writes _ _ _ _ := True
  ends p _ ended _ := ∀ r, ended = .ok (.flow (.ok r)) → p.agent = some r.flowId
  refl := Later.refl
  trans := Later.trans

open Job

/-- From a state on in which the flow is there, a call that names it names it by its id. -/
theorem ensures_named {a : Action H F FlowResult} {id : String} {number : Nat}
    {heard : List (Heard (Desk H) (.desk F))} {f : Flow H} (here : d.flows[id]? = some f)
    (ensures : a.run.Ensures (.keeping (fun t => t.Numbered ∧ Later d t) Later)
      (Action.naming (fun t => t.Numbered ∧ Later d t) id) heard d) :
    a.run.Ensures (named.terms ⟨number, some id⟩)
      (fun _ ended _ => ∀ r, ended = .ok (.ok r) → some id = some r.flowId) heard d := by
  refine ensures_mono (Later d) (fun q r s t since found => ?_) (fun heard s t since written => ?_)
    (fun heard ended t since named r answer => ?_) (.refl d) ensures
  · have later := since.trans found.2.2
    exact ⟨⟨found.2.1, later⟩, later⟩
  · exact ⟨⟨⟨written.1.1, written.2⟩, trivial⟩, written.1.2⟩
  · obtain ⟨t, ⟨numbered, later⟩, name⟩ := named.2 r answer
    obtain ⟨g, there, _⟩ := later.flows id f here
    rw [name, contextOf, there]
    exact congrArg some (numbered.flows id g there).1.symm

theorem opens_named (steps : Steps H F) {number : Nat} (numbered : d.Numbered) :
    Action.Opens steps (named.terms ⟨number, some (Issue.id d.issued)⟩)
      (fun _ ended _ => ∀ r, ended = .ok (.ok r) → some (Issue.id d.issued) = some r.flowId)
      [] d := by
  intro kind memory c step data opening
  have given := opening.flowId
  have issued := numbered.issue
  have listed := numbered.enroll kind memory step given
  refine ⟨⟨issued, trivial⟩, ⟨listed, trivial⟩, ?_⟩
  rw [← given]
  refine ensures_named (by rw [flow_enroll, if_pos rfl]) ?_
  exact Action.naming_underWay (closed_numbered.since _) steps c.flowId step data
    ⟨listed.1, .refl _⟩

theorem Call.meets_named (steps : Steps H F) (c : Call) {number : Nat} (numbered : d.Numbered) :
    (named (F := F)).Meets ⟨number, some (c.flow d)⟩ (c.job steps) [] d := by
  have ends : (c.action steps).run.Ensures (named.terms ⟨number, some (c.flow d)⟩)
      (fun _ ended _ => ∀ r, ended = .ok (.ok r) → some (c.flow d) = some r.flowId) [] d := by
    have fails (e : FlowError) (r : FlowResult) (answer : Except.ok (Except.error e) =
        (Except.ok (Except.ok r) : Except Crash (Except FlowError FlowResult))) :
        some (Issue.id d.issued) = some r.flowId := by cases answer
    cases c with
    | start handler source data =>
      exact Action.ensures_startConfig fails (opens_named steps numbered)
    | startReauth entryId => exact Action.ensures_startReauth fails (opens_named steps numbered)
    | startOptions entryId => exact Action.ensures_startOptions fails (opens_named steps numbered)
    | submit id input =>
      by_cases listed : id ∈ d.listed
      · obtain ⟨f, here⟩ := numbered.listed id listed
        exact ensures_named here
          (Action.naming_submit (closed_numbered.since d) steps id input ⟨numbered, .refl d⟩)
      · exact Action.ensures_unlisted listed (by rintro r ⟨⟩)
  refine ensures_bind.mpr (ensures_imp (fun heard ended t named => ?_) ends)
  cases ended with
  | ok answer =>
    rintro r ⟨⟩
    exact named r rfl
  | error x => rintro r ⟨⟩

theorem errand_meets_named (e : Registry.Errand) {p : Party (Option String)}
    (numbered : d.Numbered) : (named (F := F)).Meets p (errandJob e) [] d := by
  have ends : (Work.host e.action : Work H F _).Ensures (named.terms p) (fun _ _ _ => True) []
      d := by
    refine ensures_mono (fun _ => True) (fun _ _ _ _ _ found => ⟨found.2.1, trivial⟩)
      (fun _ _ _ _ written => ⟨⟨written, trivial⟩, trivial⟩) (fun _ _ _ _ _ => trivial) trivial
      (ensures_of_keeps numbered ?_)
    exact Work.keeps_host closed_numbered.lifecycle e.cycles d numbered
  refine ensures_bind.mpr (ensures_imp (fun heard ended t _ => ?_) ends)
  cases ended <;> rintro r ⟨⟩

theorem serves_named (steps : Steps H F) : Serves steps named fun _ _ => True where
  change numbered _ := numbered.aside rfl rfl rfl
  abort {d id} numbered _ := by
    unfold abort
    split
    · exact numbered.note (d.notes_delist id)
    · exact ⟨numbered, .refl d⟩
  issue numbered _ := numbered.issue
  integrate numbered _ := numbered.aside rfl rfl rfl
  time numbered _ := numbered.aside rfl rfl rfl
  errand {d e number} numbered _ := errand_meets_named e numbered
  reply _ _ _ _ := trivial
  call {d c number} numbered _ := c.meets_named steps numbered

theorem numbered_opened (handled : Std.ExtTreeSet String) (now : Instant) :
    (Record.opened (H := H) (F := F) handled now).state.Numbered :=
  ⟨fun id f here => by simp [Record.opened] at here,
    fun id member => by simp [Record.opened] at member⟩

end Onboarding.Desk
