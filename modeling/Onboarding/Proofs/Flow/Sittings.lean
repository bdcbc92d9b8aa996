import Onboarding.Proofs.Flow.Conduct
import Onboarding.Proofs.Flow.Rounds

/-! Calls on one flow, one after the other. While a call has the turn on a flow nobody else changes
the flow, whatever is done at the desk meanwhile; so every call finds the flow as the one before it
has left it. What one call makes of a flow in its turn then tells what all of them make of it. -/
namespace Onboarding.Desk

open Job

variable {H : Type} {F : Signature} {u : Practice H} {steps : Steps H F}
  {starts : Nat → String → Prop} {c c' : Record H F} {id : String} {p : Party (Option String)}
  {heard : List (Heard (Desk H) (.desk F))} {j : Work H F Answer} {f first : Flow H}

/-- What a call with the turn on a flow relies on: the flow is as the call has left it. -/
def sitting (H : Type) (F : Signature) (id : String) : Protocol (Desk H) (.desk F) where
  finds _ _ s t := t.flows[id]? = s.flows[id]?
  writes _ _ _ := True
  waits _ q _ := ∀ other, q ≠ .awaitFlow other

/-- What a call makes of a flow, by what it hears and how it ends. -/
abbrev Making (H : Type) (F : Signature) :=
  Flow H → List (Heard (Desk H) (.desk F)) → Except Crash Answer → Flow H → Prop

def makes (R : Making H F) (id : String) (f : Flow H) : Post (Desk H) (.desk F) Answer :=
  fun heard ended t => ∃ g, t.flows[id]? = some g ∧ R f heard ended g

/-- What a submit has heard when its turn on the flow comes. -/
inductive Summons (id : String) : List (Heard (Desk H) (.desk F)) → Prop where
  | atOnce : Summons id []
  | waited (t : Desk H) : Summons id [⟨.awaitFlow id, (), t⟩]

/-- In its turn every submit makes of a flow with `P` what `R` says, which has `P` again. -/
structure Sits (steps : Steps H F) (id : String) (P : Flow H → Prop) (R : Making H F) : Prop where
  refused : ∀ f, P f → R f [] (.ok (.flow (.error (.unknownFlow id)))) f
  turn : ∀ {d : Desk H} {f : Flow H} {heard : List (Heard (Desk H) (.desk F))} (input : Data),
    d.flows[id]? = some f → P f → Summons id heard →
      (turnCall steps id input).Obeys (sitting H F id) (makes R id f) heard d
  kept : ∀ {f heard ended g}, P f → R f heard ended g → P g

/-- The calls, the latest first, have made the flow of a first one. -/
inductive Made (R : Making H F) (first : Flow H) :
    List (Ended (Option String) (Desk H) (.desk F) Answer) → Flow H → Prop where
  | nil : Made R first [] first
  | cons {e : Ended (Option String) (Desk H) (.desk F) Answer}
    {es : List (Ended (Option String) (Desk H) (.desk F) Answer)} {f g : Flow H}
    (made : Made R first es f) (makes : R f e.heard e.ending g) : Made R first (e :: es) g

/-- The calls on a flow that have ended, the latest first. -/
def Record.callsOn (c : Record H F) (id : String) :
    List (Ended (Option String) (Desk H) (.desk F) Answer) :=
  c.ended.filter fun e => e.party.agent = some id

variable {P : Flow H → Prop} {R : Making H F}
  {past es : List (Ended (Option String) (Desk H) (.desk F) Answer)}

theorem Made.kept (sits : Sits steps id P R) (made : Made R first es f) (start : P first) :
    P f := by
  induction made with
  | nil => exact start
  | cons made makes ih => exact sits.kept ih makes

/-- What has become of a first flow since some calls on it were past: between calls it is what the
calls have made of it, and the call that has the turn goes on from there. -/
structure Seating (R : Making H F) (id : String)
    (past : List (Ended (Option String) (Desk H) (.desk F) Answer)) (first : Flow H)
    (c : Record H F) : Prop where
  idle : ¬ c.InStep id → ∃ es f, c.callsOn id = es ++ past ∧ Made R first es f ∧
    c.state.flows[id]? = some f
  seated : ∀ w ∈ c.pending, w.InStep id → c.state.flows[id]? = w.since.flows[id]? ∧
    ∃ es f, c.callsOn id = es ++ past ∧ Made R first es f ∧
      ∀ r t, t.flows[id]? = w.since.flows[id]? →
        (w.next r).Obeys (sitting H F id) (makes R id f) (w.heard ++ [⟨w.request, r, t⟩]) t

namespace Seating

/-- Nothing is done to the flow, and no call on it begins to wait in its turn or ends. -/
theorem same (seating : Seating R id past first c)
    (flow : c'.state.flows[id]? = c.state.flows[id]?) (calls : c'.callsOn id = c.callsOn id)
    (pending : ∀ w : Pending (Option String) (Desk H) (.desk F) Answer, w.InStep id →
      (w ∈ c'.pending ↔ w ∈ c.pending)) : Seating R id past first c' where
  idle quiet := by
    rw [flow, calls]
    exact seating.idle fun ⟨w, member, inStep⟩ => quiet ⟨w, (pending w inStep).mpr member, inStep⟩
  seated w member inStep := by
    rw [flow, calls]
    exact seating.seated w ((pending w inStep).mp member) inStep

theorem put {t : Desk H} (seating : Seating R id past first c)
    (flow : t.flows[id]? = c.state.flows[id]?) : Seating R id past first (c.put t) :=
  seating.same flow rfl fun _ _ => Iff.rfl

theorem callsOn_close (e : Ended (Option String) (Desk H) (.desk F) Answer) :
    Record.callsOn (Chronicle.close c e) id =
      if e.party.agent = some id then e :: c.callsOn id else c.callsOn id := by
  simp only [Record.callsOn, Chronicle.close, List.filter_cons, decide_eq_true_eq]

/-- A job that is for another flow, or for none, goes on. -/
theorem aside {π : Protocol (Desk H) (.desk F)} {post : Post (Desk H) (.desk F) Answer}
    (seating : Seating R id past first c) (other : p.agent ≠ some id)
    (obeys : j.Obeys π post heard c.state)
    (spares : ∀ {s t}, π.writes heard s t → t.flows[id]? = s.flows[id]?) :
    Seating R id past first (Chronicle.follow p heard j c) := by
  obtain ⟨c', written, stops⟩ := Chronicle.follow_obeys (p := p) obeys
  have flow : c'.state.flows[id]? = c.state.flows[id]? :=
    written.keeps (P := fun v => v.state.flows[id]? = c.state.flows[id]?)
      (fun _ _ kept allowed => (spares allowed).trans kept) rfl
  have calls : Record.callsOn c' id = c.callsOn id := by
    rw [Record.callsOn, Record.callsOn, written.ended]
  rcases stops with ⟨q, next, stops, _⟩ | ⟨ending, stops, _⟩
  · rw [stops]
    refine seating.same flow calls fun w inStep => ?_
    change w ∈ c'.pending ++ _ ↔ _
    rw [List.mem_append, written.pending, List.mem_singleton]
    refine or_iff_left ?_
    rintro rfl
    exact other inStep.1
  · rw [stops]
    refine seating.same flow ?_ fun w _ => ?_
    · rw [callsOn_close, if_neg other]
      exact calls
    · exact iff_of_eq (congrArg (w ∈ ·) written.pending)

/-- A call on the flow goes on in its turn. -/
theorem go (calls : c.callsOn id = es ++ past) (made : Made R first es f)
    (alone : ∀ w ∈ c.pending, ¬ w.InStep id) (agent : p.agent = some id)
    (obeys : j.Obeys (sitting H F id) (makes R id f) heard c.state) :
    Seating R id past first (Chronicle.follow p heard j c) := by
  obtain ⟨c', written, stops⟩ := Chronicle.follow_obeys (p := p) obeys
  have others : ∀ w ∈ c'.pending, ¬ w.InStep id := written.pending ▸ alone
  have calls : Record.callsOn c' id = es ++ past := by
    rw [Record.callsOn, written.ended]
    exact calls
  rcases stops with ⟨q, next, stops, waits, goes⟩ | ⟨ending, stops, g, there, makes⟩
  · rw [stops]
    refine ⟨fun quiet => ?_, fun w member inStep => ?_⟩
    · exact absurd ⟨_, List.mem_append_right _ (List.mem_singleton.mpr rfl), agent, waits⟩ quiet
    · rcases List.mem_append.mp member with before | last
      · exact absurd inStep (others w before)
      · cases List.mem_singleton.mp last
        exact ⟨rfl, es, f, calls, made, goes⟩
  · rw [stops]
    let e : Ended (Option String) (Desk H) (.desk F) Answer := ⟨p, heard, ending, c'.state⟩
    refine ⟨fun _ => ⟨e :: es, g, ?_, .cons made makes, there⟩, fun w member inStep => ?_⟩
    · rw [callsOn_close, if_pos agent, calls]
      rfl
    · exact absurd inStep (others w member)

/-- A submit on the flow, when that is off the lists, is turned away. -/
theorem turnedAway (sits : Sits steps id P R) (start : P first)
    {e : Ended (Option String) (Desk H) (.desk F) Answer} (agent : e.party.agent = some id)
    (deaf : e.heard = []) (refused : e.ending = .ok (.flow (.error (.unknownFlow id))))
    (seating : Seating R id past first c) : Seating R id past first (Chronicle.close c e) := by
  have stays {es : List (Ended (Option String) (Desk H) (.desk F) Answer)} {f : Flow H}
      (made : Made R first es f) : Made R first (e :: es) f := by
    refine .cons made ?_
    rw [deaf, refused]
    exact sits.refused f (made.kept sits start)
  have calls {es : List (Ended (Option String) (Desk H) (.desk F) Answer)}
      (calls : c.callsOn id = es ++ past) :
      Record.callsOn (Chronicle.close c e) id = e :: es ++ past := by
    rw [callsOn_close, if_pos agent, calls]
    rfl
  constructor
  · intro quiet
    obtain ⟨es, f, before, made, here⟩ := seating.idle quiet
    exact ⟨e :: es, f, calls before, stays made, here⟩
  · intro w member inStep
    obtain ⟨flow, es, f, before, made, goes⟩ := seating.seated w member inStep
    exact ⟨flow, e :: es, f, calls before, stays made, goes⟩

theorem enter (seating : Seating R id past first c) :
    Seating R id past first { c with begun := c.begun + 1 } :=
  seating.same rfl rfl fun _ _ => Iff.rfl

/-- A job that is not in the middle of a call on the flow leaves its place. -/
theorem leave {w : Pending (Option String) (Desk H) (.desk F) Answer} {place : Nat}
    (seating : Seating R id past first c) (found : c.pending[place]? = some w)
    (outside : ¬ w.InStep id) :
    Seating R id past first { c with pending := c.pending.eraseIdx place } := by
  obtain ⟨before, after, all, rest⟩ := exists_eraseIdx found
  refine seating.same rfl rfl fun v inStep => ?_
  change v ∈ c.pending.eraseIdx place ↔ v ∈ c.pending
  rw [rest, all, List.mem_append, List.mem_append, List.mem_cons]
  refine or_congr_right (or_iff_right ?_).symm
  rintro rfl
  exact outside inStep

/-- The flow is there all the time. -/
theorem known (ledger : Ledger u steps starts none c) (seating : Seating R id past first c) :
    ∃ f, c.state.flows[id]? = some f := by
  by_cases inStep : c.InStep id
  · exact (ledger.busy inStep).flow
  · obtain ⟨_, f, _, _, here⟩ := seating.idle inStep
    exact ⟨f, here⟩

/-- A turn on another flow is taken. -/
theorem elsewhere {g : String} (seating : Seating R id past first c) (trains : u.Trains steps)
    (sound : c.state.Sound u) (known : ∃ f, c.state.flows[g]? = some f)
    (agent : p.agent = some g) (other : g ≠ id) (input : Data) :
    Seating R id past first (Chronicle.follow p heard (turnCall steps g input) c) := by
  obtain ⟨f, here⟩ := known
  have apart : some g ≠ some id := fun same => other (Option.some.inj same)
  have obeys : (turnCall steps g input).Obeys (manners u g none) _ heard c.state :=
    obeys_answered (obeys_turnJob trains sound here (by rintro page ⟨⟩) input)
  exact seating.aside (agent ▸ apart) obeys fun stroke => stroke.spares.flow id apart

/-- The turn on the flow is taken, which is free. -/
theorem turn (sits : Sits steps id P R) (start : P first) (seating : Seating R id past first c)
    (free : ¬ c.InStep id) (agent : p.agent = some id) (summons : Summons id heard)
    (input : Data) :
    Seating R id past first (Chronicle.follow p heard (turnCall steps id input) c) := by
  obtain ⟨es, f, calls, made, here⟩ := seating.idle free
  have obeys := sits.turn input here (made.kept sits start) summons
  exact go calls made (fun w member inStep => free ⟨w, member, inStep⟩) agent obeys

theorem reply (trains : u.Trains steps) (sits : Sits steps id P R) (start : P first)
    (ledger : Ledger u steps starts none c) (seating : Seating R id past first c) {place : Nat}
    {say : ∀ q : Calling F, Option q.Reply} (grants : c.Grants (.reply place say)) :
    Seating R id past first (c.reply place say) := by
  rcases c.reply_cases place say with same | ⟨w, answer, found, said, same⟩ <;> rw [same]
  · exact seating
  have member := List.mem_of_getElem? found
  have since := ledger.since w member
  cases ledger.standing w member with
  | errand agent goes =>
    have outside : w.party.agent ≠ some id := by
      rw [agent]
      rintro ⟨⟩
    have left := seating.leave found fun inStep => outside inStep.1
    exact left.aside outside (goes answer c.state ⟨ledger.sound, since⟩)
      fun stroke => stroke.spares.flow id (by rintro ⟨⟩)
  | @queued party _ g input agent known later =>
    have free : ¬ c.state.Busy g := grants _ g found rfl (by rw [said]; rfl)
    have left := seating.leave found fun inStep => absurd rfl (inStep.2 g)
    by_cases own : g = id
    · subst own
      refine left.turn sits start ?_ agent (.waited c.state) input
      rintro ⟨v, remains, inStep⟩
      exact free (ledger.busy ⟨v, List.mem_of_mem_eraseIdx remains, inStep⟩)
    · exact left.elsewhere trains ledger.sound known agent own input
  | @seated _ g first inStep busy begun started goes =>
    by_cases own : g = id
    · subst own
      obtain ⟨flow, es, f, calls, made, goes⟩ := seating.seated w member inStep
      refine go (c := { c with pending := c.pending.eraseIdx place }) calls made
        (fun v remains inStep' => ?_) inStep.1 (goes answer c.state flow)
      exact (pairwise_eraseIdx ledger.apart found remains).elim
        (fun apart => apart g inStep inStep') fun apart => apart g inStep' inStep
    · have outside : w.party.agent ≠ some id := by
        rw [inStep.1]
        exact fun same => own (Option.some.inj same)
      have left := seating.leave found fun inStep' => outside inStep'.1
      have held : c.state.Held g (c.lastForm g) := ⟨busy, fun p shown => ledger.shows shown⟩
      exact left.aside outside (goes answer c.state ⟨ledger.sound, since, held⟩)
        fun stroke => stroke.spares.flow id (inStep.1 ▸ outside)

theorem submit (trains : u.Trains steps) (sits : Sits steps id P R) (start : P first)
    (ledger : Ledger u steps starts none c) (seating : Seating R id past first c) (g : String)
    (input : Data) : Seating R id past first (c.happen steps (.call (.submit g input))) := by
  by_cases listed : g ∈ c.state.listed
  · by_cases busy : c.state.Busy g
    · rw [submit_busy listed busy]
      refine seating.enter.same rfl rfl fun w inStep => ?_
      change w ∈ c.pending ++ _ ↔ _
      rw [List.mem_append, List.mem_singleton]
      refine or_iff_left ?_
      rintro rfl
      exact absurd rfl (inStep.2 g)
    · rw [submit_free listed busy]
      by_cases own : g = id
      · subst own
        exact seating.enter.turn sits start (fun inStep => busy (ledger.busy inStep)) rfl .atOnce
          input
      · exact seating.enter.elsewhere trains ledger.sound
          (ledger.sound.numbered.listed g listed) rfl own input
  · rw [submit_unlisted listed]
    by_cases own : g = id
    · subst own
      exact turnedAway sits start rfl rfl rfl seating.enter
    · refine seating.enter.same rfl ?_ fun _ _ => Iff.rfl
      rw [callsOn_close, if_neg fun same => own (Option.some.inj same)]

theorem begin (trains : u.Trains steps) (ledger : Ledger u steps starts none c)
    (seating : Seating R id past first c) {call : Call} (opening : call.Starts) :
    Seating R id past first (c.happen steps (.call call)) := by
  have other : some (call.flow c.state) ≠ some id := by
    intro same
    have fresh : call.flow c.state = Issue.id c.state.issued := by
      cases call with
      | submit => exact opening.elim
      | start | startReauth | startOptions => rfl
    obtain ⟨f, here⟩ := seating.known ledger
    rw [← Option.some.inj same, fresh, ledger.sound.numbered.fresh] at here
    cases here
  exact seating.enter.aside other (call.obeys_start trains opening ledger.sound)
    fun stroke => stroke.spares.flow id other

/-- Whatever happens, the flow is as the calls on it have made it. -/
theorem happen (trains : u.Trains steps) (sits : Sits steps id P R) (start : P first)
    (ledger : Ledger u steps starts none c) (seating : Seating R id past first c)
    {event : Event H F} (grants : c.Grants event) :
    Seating R id past first (c.happen steps event) := by
  cases event with
  | change | issue | integrate | time => exact seating.put rfl
  | abort g =>
    refine seating.put ?_
    unfold Desk.abort
    split <;> rfl
  | errand e =>
    exact seating.enter.aside (by rintro ⟨⟩) (obeys_errand e ledger.sound)
      fun stroke => stroke.spares.flow id (by rintro ⟨⟩)
  | reply place say => exact seating.reply trains sits start ledger grants
  | call call =>
    cases call with
    | submit g input => exact seating.submit trains sits start ledger g input
    | start | startReauth | startOptions => exact seating.begin trains ledger trivial

theorem after (trains : u.Trains steps) (sits : Sits steps id P R) (start : P first)
    (ledger : Ledger u steps starts none c) (seating : Seating R id past first c)
    {events : List (Event H F)} (turns : c.TakesTurns steps events)
    (admits : ∀ domain i, .integrate domain i ∈ events → u.Admits domain i)
    (old : ∀ n id, starts n id → n < c.begun) :
    Seating R id past first (c.after steps events) :=
  (Ledger.Ahead.run trains ⟨ledger, turns, admits, old⟩ seating fun ledger grants seating =>
    seating.happen trains sits start ledger grants).2

/-- Nobody has the turn on a flow that has just been started. -/
theorem started (ledger : Ledger u steps starts none c) (here : c.state.flows[id]? = some first)
    (free : first.busy = false) : Seating R id (c.callsOn id) first c where
  idle _ := ⟨[], first, rfl, .nil, here⟩
  seated w member inStep := by
    have busy := ledger.busy ⟨w, member, inStep⟩
    rw [Busy, here, Option.any_some, free] at busy
    cases busy

/-- The calls have made the flow what it is while nobody has the turn on it. -/
theorem made (seating : Seating R id past first c) :
    ∃ es f, c.callsOn id = es ++ past ∧ Made R first es f ∧
      (¬ c.InStep id → c.state.flows[id]? = some f) := by
  by_cases inStep : c.InStep id
  · obtain ⟨w, member, own⟩ := inStep
    obtain ⟨_, es, f, calls, made, _⟩ := seating.seated w member own
    exact ⟨es, f, calls, made, fun idle => absurd ⟨w, member, own⟩ idle⟩
  · obtain ⟨es, f, calls, made, here⟩ := seating.idle inStep
    exact ⟨es, f, calls, made, fun _ => here⟩

end Seating

/-- A start whose first step shows a form at once is the first call on its flow that ends. -/
theorem Record.callsOn_start (steps : Steps H F) (c : Record H F) (call : Call) (page : Page)
    (f : Flow H)
    (obeys : (call.action steps).run.Obeys .prompt (fun _ ended t => ∃ r, ended = .ok (.ok r) ∧
      r.body = .form page ∧ t.flows[call.flow c.state]? = some f) [] c.state) :
    ∃ e r, (c.happen steps (.call call)).callsOn (call.flow c.state) =
        e :: c.callsOn (call.flow c.state) ∧
      e.heard = [] ∧ e.ending = .ok (.flow (.ok r)) ∧ r.body = .form page ∧
      (c.happen steps (.call call)).state.flows[call.flow c.state]? = some f := by
  have job : (call.job steps).Obeys .prompt (answering _) [] c.state := obeys_answered obeys
  obtain ⟨c', _, written, closed, _, rfl, r, rfl, body, here⟩ := Chronicle.closes_prompt
    (p := ⟨c.begun, some (call.flow c.state)⟩) (c := { c with begun := c.begun + 1 }) job
  let e : Ended (Option String) (Desk H) (.desk F) Answer :=
    ⟨⟨c.begun, some (call.flow c.state)⟩, [], .ok (.flow (.ok r)), c'.state⟩
  have happens : c.happen steps (.call call) = Chronicle.close c' e := closed
  refine ⟨e, r, ?_, rfl, rfl, body, happens ▸ here⟩
  rw [happens, Seating.callsOn_close, if_pos rfl, Record.callsOn, written.ended]
  rfl

theorem sound_restarted (d : Desk H) : d.restart.1.Sound Practice.none where
  numbered := (InPlace.restart d).numbered
  filed := (InPlace.restart d).filed
  tabled := by
    refine ⟨fun id => ?_, fun id row here => ?_⟩
    · simp [Desk.restart]
    · simp [Desk.restart] at here
  admitted domain i _ := Practice.none_admits domain i
  trained _ _ _ bound := bound.elim
  apart _ _ _ _ _ _ _ bound := bound.elim

/-- The ledger of a desk is kept from its restart on. -/
theorem ledger_restarted (d : Desk H) {events : List (Event H F)}
    (turns : (Record.restarted d).TakesTurns steps events) :
    Ledger Practice.none steps (fun _ _ => False) none
      ((Record.restarted d).after steps events) := by
  have new : Ledger Practice.none steps (fun _ _ => False) none (Record.restarted d) :=
    ledger_new (sound_restarted d) fun id => by simp [Desk.restart]
  exact new.after (Practice.none_trains steps) turns
    (fun domain i _ => Practice.none_admits domain i) fun _ _ never => never.elim

end Onboarding.Desk
