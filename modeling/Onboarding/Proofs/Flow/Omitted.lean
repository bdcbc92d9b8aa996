import Onboarding.Proofs.Flow.Listing
import Onboarding.Proofs.Flow.Refused
import Onboarding.Proofs.Job.Omission

/-! Runs without some of the calls that were refused. A call that was refused in the end was refused
at once, or has waited for its turn and was refused then. Either way the desk is as if the call had
not been made, and so is everything that comes later. -/
namespace Onboarding.Desk

open Job Chronicle

variable {H : Type} {F : Signature} {steps : Steps H F} {c c' : Record H F} {out : Nat → Bool}
  {n : Nat} {event : Event H F} {events events' later : List (Event H F)}

/-- The call of a number was refused. -/
def Record.Refused (c : Record H F) (n : Nat) : Prop :=
  ∃ e ∈ c.ended, e.party.number = n ∧
    ∃ r : FlowError, r.Refuses ∧ e.ending = .ok (.flow (.error r))

/-- The number of the job that an event starts, or lets go on. -/
def Event.number (c : Record H F) : Event H F → Option Nat
  | .call _ | .errand _ => some c.begun
  | .reply place _ => (c.pending[place]?).map (·.party.number)
  | _ => none

/-- The same event where some jobs are out: those that wait have moved up. -/
def Event.movedUp (out : Nat → Bool) (c : Record H F) : Event H F → Event H F
  | .reply place say => .reply (c.placeLeft out place) say
  | event => event

/-- The second run is the first one without the calls whose numbers are out, and without some of the
aborts that find no flow. -/
inductive Omits (steps : Steps H F) (out : Nat → Bool) :
    Record H F → List (Event H F) → List (Event H F) → Prop where
  | done (c : Record H F) : Omits steps out c [] []
  | kept {c : Record H F} {event : Event H F} {events events' : List (Event H F)}
    (stays : ∀ n, event.number c = some n → out n = false)
    (rest : Omits steps out (c.happen steps event) events events') :
    Omits steps out c (event :: events) (event.movedUp out c :: events')
  | job {c : Record H F} {event : Event H F} {events events' : List (Event H F)} {n : Nat}
    (acts : event.number c = some n) (omitted : out n = true)
    (rest : Omits steps out (c.happen steps event) events events') :
    Omits steps out c (event :: events) events'
  | abort {c : Record H F} {id : String} {events events' : List (Event H F)}
    (unlisted : id ∉ c.state.listed)
    (rest : Omits steps out (c.happen steps (.abort id)) events events') :
    Omits steps out c (.abort id :: events) events'

/-- The call waits for its turn. -/
def InLine (steps : Steps H F) (w : Pending (Option String) (Desk H) (.desk F) Answer) : Prop :=
  ∃ party since id input,
    w = ⟨party, [], since, .awaitFlow id, fun _ => turnCall steps id input⟩

/-- No number is given twice, and calls that are out wait for their turn at most. -/
structure Fit (steps : Steps H F) (out : Nat → Bool) (c : Record H F) : Prop where
  counted : c.Counted
  distinct : c.Distinct
  inLine : ∀ w ∈ c.pending, out w.party.number = true → InLine steps w

/-- The answer is no refusal. -/
def unrefusing : Post (Desk H) (.desk F) Answer :=
  fun _ ended _ => ∀ r : FlowError, ended = .ok (.flow (.error r)) → ¬ r.Refuses

namespace Record

theorem distinct_happen (counted : c.Counted) (distinct : c.Distinct) (event : Event H F) :
    (c.happen steps event).Distinct := by
  cases event with
  | errand e => exact distinct.start counted none _
  | call call => exact distinct.start counted _ _
  | reply place say => exact distinct.reply place say
  | _ => exact ⟨distinct.pending, distinct.ended⟩

/-- Whoever waits has waited before, or is the one that the event is about. -/
theorem pending_happen {w : Pending (Option String) (Desk H) (.desk F) Answer}
    (member : w ∈ (c.happen steps event).pending) :
    w ∈ c.pending ∨ event.number c = some w.party.number := by
  cases event with
  | errand e =>
    refine (pending_follow member).imp_right fun same => ?_
    rw [same]
    rfl
  | call call =>
    refine (pending_follow member).imp_right fun same => ?_
    rw [same]
    rfl
  | reply place say =>
    change w ∈ (c.reply place say).pending at member
    rcases c.reply_cases place say with same | ⟨v, answer, found, _, same⟩ <;> rw [same] at member
    · exact .inl member
    · refine (pending_follow member).imp List.mem_of_mem_eraseIdx fun same => ?_
      rw [Event.number, found, same]
      rfl
  | _ => exact .inl member

/-! An event that is left happens in both runs alike. -/

theorem without_happen (without : Without out c c')
    (stays : ∀ n, event.number c = some n → out n = false) :
    Without out (c.happen steps event) (c'.happen steps (event.movedUp out c)) := by
  have puts (f : Desk H → Desk H) : Without out (c.put (f c.state)) (c'.put (f c'.state)) := by
    rw [without.state]
    exact without.put _
  cases event with
  | change change => exact puts (·.changed change)
  | errand e => exact without.start (stays _ rfl) none _
  | call call =>
    change Without out _ (c'.start (some (call.flow c'.state)) _)
    rw [without.state]
    exact without.start (stays _ rfl) _ _
  | abort id => exact puts fun d => (d.abort id).1
  | issue => exact puts fun d => d.issue.2
  | integrate domain i =>
    exact puts fun d => { d with integrations := d.integrations.insert domain i }
  | time now => exact puts fun d => { d with now }
  | reply place say =>
    refine without.reply place (fun w found => stays _ ?_) say
    rw [Event.number, found]
    rfl

theorem grants_movedUp (without : Without out c c')
    (stays : ∀ n, event.number c = some n → out n = false) (grants : c.Grants event) :
    Grants c' (event.movedUp out c) := by
  cases event with
  | reply place say =>
    intro w id found asks said
    have waits := without.waiting fun v there => stays _ (by rw [Event.number, there]; rfl)
    obtain ⟨v, there, rfl⟩ := Option.map_eq_some_iff.mp (waits.symm.trans found)
    rw [without.state]
    exact grants v id there asks said
  | _ => trivial

theorem fit_happen (fit : Fit steps out c)
    (stays : ∀ n, event.number c = some n → out n = false) :
    Fit steps out (c.happen steps event) where
  counted := counted_happen fit.counted event
  distinct := distinct_happen fit.counted fit.distinct event
  inLine w member omitted := by
    rcases pending_happen member with old | new
    · exact fit.inLine w old omitted
    · exact absurd omitted (by simp [stays _ new])

/-! An event that is omitted leaves the desk as it is. -/

/-- A job that goes on in no way that it is refused in is not refused any more. -/
theorem not_refused (tracks : Tracks n .free unrefusing c) (old : n < c.begun)
    (later : List (Event H F)) : ¬ Refused (c.after steps later) n := by
  rintro ⟨e, member, number, r, refuses, ending⟩
  have done := (tracks_after steps (fun _ _ _ _ => trivial) old tracks later).ended e member number
  exact done r ending refuses

/-- The desk is as before, and nobody waits that has not waited before, but for a turn. -/
structure Passed (steps : Steps H F) (c t : Record H F) : Prop where
  state : t.state = c.state
  pending : ∀ w ∈ t.pending, w ∈ c.pending ∨ InLine steps w

theorem obeys_answer_unrefusing {w : Work H F (Except FlowError FlowResult)}
    {heard : List (Heard (Desk H) (.desk F))} {d : Desk H} {g : String}
    (obeys : w.Obeys (alone F g) (fun _ ended _ => Unrefused ended) heard d) :
    Obeys .free unrefusing (w >>= fun a => pure (Answer.flow a)) heard d := by
  refine obeys_map.mpr (obeys_free (fun _ _ _ _ => trivial) (obeys_imp ?_ obeys))
  intro heard ended t goes r failed
  match ended with
  | .ok (.ok a) => cases failed
  | .ok (.error e) =>
    cases failed
    exact goes r rfl
  | .error x => cases failed

theorem obeys_errand_unrefusing (e : Registry.Errand) (d : Desk H) :
    (errandJob e : Work H F Answer).Obeys .free unrefusing [] d := by
  refine obeys_map.mpr (obeys_free (fun _ _ _ _ => trivial) (obeys_imp ?_
    (obeys_host_alone (g := "") e.cycles)))
  intro heard ended t _
  cases ended <;> rintro r ⟨⟩

theorem passed_call (counted : c.Counted) {call : Call}
    (refused : Refused (after steps (c.happen steps (.call call)) later) c.begun) :
    Passed steps c (c.happen steps (.call call)) := by
  cases refusal : c.state.refusal call with
  | some r =>
    have done : advance (call.job steps) c.state = (.done (.flow (.error r)), c.state) := by
      rw [Call.job, advance_bind, call.advance_refused refusal]
      rfl
    obtain ⟨state, pending⟩ := follow_done ⟨c.begun, some (call.flow c.state)⟩ []
      (c := { c with begun := c.begun + 1 }) done
    refine ⟨state, fun w member => .inl ?_⟩
    exact pending ▸ member
  | none =>
    by_cases queued : ∃ id input, call = .submit id input ∧ c.state.Busy id
    · obtain ⟨id, input, rfl, busy⟩ := queued
      have listed : id ∈ c.state.listed := by
        by_contra unlisted
        simp [Desk.refusal, unlisted] at refusal
      rw [submit_busy listed busy]
      refine ⟨rfl, fun w member => (List.mem_append.mp member).imp_right fun new => ?_⟩
      exact ⟨_, _, id, input, List.mem_singleton.mp new⟩
    · have obeys : (call.action steps).run.Obeys (alone F (call.flow c.state))
          (fun _ ended _ => Unrefused ended) [] c.state :=
        call.obeys_unrefused refusal fun id input same busy => queued ⟨id, input, same, busy⟩
      have tracks : Tracks c.begun .free unrefusing (c.happen steps (.call call)) :=
        tracks_call counted (obeys_answer_unrefusing obeys)
      refine absurd refused (not_refused tracks ?_ later)
      rw [happen, c.begun_start]
      exact Nat.lt_succ_self _

theorem passed_reply (fit : Fit steps out c) {place : Nat}
    {say : ∀ q : Calling F, Option q.Reply}
    {w : Pending (Option String) (Desk H) (.desk F) Answer} (found : c.pending[place]? = some w)
    (omitted : out w.party.number = true) (grants : c.Grants (.reply place say))
    (refused : Refused (after steps (c.reply place say) later) w.party.number) :
    Passed steps c (c.reply place say) := by
  have member := List.mem_of_getElem? found
  obtain ⟨party, since, id, input, rfl⟩ := fit.inLine w member omitted
  cases said : say (.awaitFlow id) with
  | none =>
    rw [reply_unsaid found said]
    exact ⟨rfl, fun v member => .inl member⟩
  | some answer =>
    have free : ¬ c.state.Busy id := grants _ id found rfl (by rw [said]; rfl)
    cases refusal : c.state.turnRefusal id input with
    | some r =>
      have done : advance (turnCall steps id input) c.state =
          (.done (.flow (.error r)), c.state) := by
        rw [turnCall, advance_bind, advance_turnJob_refused refusal free]
        rfl
      obtain ⟨state, pending⟩ := follow_done party [⟨.awaitFlow id, answer, c.state⟩]
        (c := { c with pending := c.pending.eraseIdx place }) done
      rw [reply_eq found said]
      dsimp only [List.nil_append]
      refine ⟨state, fun v member => .inl ?_⟩
      rw [pending] at member
      exact List.mem_of_mem_eraseIdx member
    | none =>
      have tracks : Tracks party.number .free unrefusing (c.reply place say) :=
        fit.distinct.tracks found (fun _ _ _ => trivial) said
          (obeys_answer_unrefusing (obeys_turnJob_alone refusal))
      refine absurd refused (not_refused tracks ?_ later)
      rw [c.begun_reply]
      exact fit.counted.pending _ member

/-- What is done by a call that is refused in the end leaves the desk as it is. -/
theorem passed_happen (fit : Fit steps out c) (acts : event.number c = some n)
    (omitted : out n = true) (grants : c.Grants event)
    (refused : Refused (after steps (c.happen steps event) later) n) :
    Passed steps c (c.happen steps event) := by
  cases event with
  | call call =>
    cases acts
    exact passed_call fit.counted refused
  | errand e =>
    cases acts
    have tracks : Tracks c.begun .free unrefusing (c.happen steps (.errand e)) :=
      (Tracks.new fit.counted).start none fun _ => obeys_errand_unrefusing e c.state
    refine absurd refused (not_refused tracks ?_ later)
    rw [happen, c.begun_start]
    exact Nat.lt_succ_self _
  | reply place say =>
    obtain ⟨w, found, rfl⟩ := Option.map_eq_some_iff.mp acts
    exact passed_reply fit found omitted grants refused
  | _ => cases acts

theorem without_passed (without : Without out c c') (acts : event.number c = some n)
    (omitted : out n = true) (passed : Passed steps c (c.happen steps event)) :
    Without out (c.happen steps event) c' := by
  cases event with
  | call call =>
    cases acts
    exact without.start_out omitted passed.state
  | errand e =>
    cases acts
    exact without.start_out omitted passed.state
  | reply place say =>
    obtain ⟨w, found, rfl⟩ := Option.map_eq_some_iff.mp acts
    exact without.reply_out found omitted passed.state
  | _ => cases acts

theorem fit_passed (fit : Fit steps out c) (passed : Passed steps c (c.happen steps event)) :
    Fit steps out (c.happen steps event) where
  counted := counted_happen fit.counted event
  distinct := distinct_happen fit.counted fit.distinct event
  inLine w member omitted := by
    rcases passed.pending w member with old | new
    · exact fit.inLine w old omitted
    · exact new

/-- Calls that are refused in the end may as well not have been made. -/
theorem without_after (omits : Omits steps out c events events') (without : Without out c c')
    (fit : Fit steps out c) (turns : c.TakesTurns steps events)
    (refused : ∀ n, out n = true → Refused (c.after steps events) n) :
    Without out (c.after steps events) (c'.after steps events') ∧ c'.TakesTurns steps events' := by
  induction omits generalizing c' with
  | done c => exact ⟨without, trivial⟩
  | kept stays rest ih =>
    obtain ⟨whole, turns'⟩ :=
      ih (without_happen without stays) (fit_happen fit stays) turns.2 refused
    exact ⟨whole, grants_movedUp without stays turns.1, turns'⟩
  | job acts omitted rest ih =>
    have passed := passed_happen fit acts omitted turns.1 (refused _ omitted)
    exact ih (without_passed without acts omitted passed) (fit_passed fit passed) turns.2 refused
  | @abort c id _ _ unlisted rest ih =>
    have same : (c.state.abort id).1 = c.state := by rw [Desk.abort, if_neg unlisted]
    have puts : c.happen steps (.abort id) = c.put c.state := by rw [happen, same]
    have fits : Fit steps out (c.happen steps (.abort id)) :=
      fit_happen fit fun n acts => by cases acts
    refine ih ?_ fits turns.2 refused
    rw [puts]
    exact without.put_self

theorem fit_opened (handled : Std.ExtTreeSet String) (now : Instant) :
    Fit steps out (opened handled now : Record H F) where
  counted := counted_opened handled now
  distinct := ⟨.nil, by rintro w ⟨⟩⟩
  inLine := by rintro w ⟨⟩

end Record

variable {handled : Std.ExtTreeSet String} {now : Instant}

/-- Calls that are refused go unseen. Each of them is refused by what it finds, takes no step, asks
for nothing but its turn, and leaves the desk as it finds it; a start that fails otherwise leaves
the table of the flows as it was. And a run without any of the refused calls comes to what the run
comes to with them. -/
theorem refusals_unseen (steps : Steps H F)
    (turns : (Record.opened handled now).TakesTurns steps events) :
    (∀ (d : Desk H) (call : Call),
      (call.action steps).run.Ensures (granting H F)
        (fun heard ended t => ∀ r, ended = .ok (.error r) → r.Refuses → RefusedAt d call r heard t)
        [] d ∧
      ∀ r, d.refusal call = some r → ∀ steps : Steps H F,
        advance (call.action steps).run d = (.done (.error r), d)) ∧
    (∀ (d : Desk H) id input r, d.turnRefusal id input = some r → ¬ d.Busy id →
      ∀ steps : Steps H F, advance (turnJob steps id input) d = (.done (.error r), d)) ∧
    (∀ (d : Desk H) id r, (d.abort id).2 = .error r → (d.abort id).1 = d) ∧
    let c := (Record.opened handled now).after steps events
    (∀ call : Call, call.Starts → ∀ kept : String → Prop,
      (call.action steps).run.Ensures (leaving H F kept)
        (fun _ ended t => ∀ r, ended = .ok (.error r) → ∀ id, kept id ∨ id = call.flow c.state →
          Untouched id c.state t) [] c.state) ∧
    ∀ out events', (∀ n, out n = true → c.Refused n) →
      Omits steps out (Record.opened handled now) events events' →
      Without out c ((Record.opened handled now).after steps events') ∧
        (Record.opened handled now).TakesTurns steps events' := by
  refine ⟨fun d call => ⟨call.ensures_refused d steps, fun r refused =>
    call.advance_refused refused⟩, fun d id input r refused free =>
    advance_turnJob_refused refused free, ?_, ?_, ?_⟩
  · intro d id r failed
    unfold abort at failed ⊢
    split at failed
    · cases failed
    · rename_i unlisted
      rw [if_neg unlisted]
  · intro call starts kept
    have ledger := ledger_after (Practice.none_trains steps)
      (fun domain i _ => Practice.none_admits domain i) turns
    exact call.ensures_start_failed starts ledger.sound kept steps
  · intro out events' refused omits
    exact Record.without_after omits (.new _) (Record.fit_opened handled now) turns refused

/-- A door with a bell. -/
def Bell : Signature := ⟨Unit, fun _ => Unit⟩

/-- Flows that ring once, and end. -/
def bellSteps : Steps Unit Bell := fun _ _ => do
  Step.outside (F := Bell) ()
  return .abort "nobody"

def rung : ∀ q : Calling Bell, Option q.Reply
  | .device _ => some ()
  | .awaitFlow _ => some ()
  | .hosting _ => none

def porch : Event Unit Bell := .integrate "porch" { start := (), options := fun _ => none }

/-- A start of nobody's, an answer to a flow that has ended by then, and an abort of no flow. -/
def ringing : List (Event Unit Bell) :=
  [.call (.start "ghost" .user none), porch, .call (.start "porch" .user none),
    .call (.submit (Issue.id 0) ∅), .abort "ghost", .reply 0 rung, .reply 0 rung]

/-- The door is rung at once, with the refused calls and without. -/
theorem ghosts_unseen :
    let c := (Record.opened ∅ .epoch).after bellSteps ringing
    let c' := (Record.opened ∅ .epoch).after bellSteps
      [porch, .call (.start "porch" .user none), .reply 0 rung]
    (Record.opened ∅ .epoch).TakesTurns bellSteps ringing ∧
    (∀ n, (n == 0 || n == 2) = true → c.Refused n) ∧
    Without (fun n => n == 0 || n == 2) c c' ∧ c'.ended.length = 1 ∧ c.ended.length = 3 := by
  intro c c'
  have turns : (Record.opened ∅ .epoch).TakesTurns bellSteps ringing := by
    refine ⟨trivial, trivial, trivial, trivial, trivial, ?_, ?_, trivial⟩
    · rintro w id ⟨⟩ asks
      cases asks
    · rintro w id ⟨⟩ ⟨⟩ _
      exact Bool.false_ne_true
  have refused (n : Nat) (gone : (n == 0 || n == 2) = true) : c.Refused n := by
    simp only [Bool.or_eq_true, beq_iff_eq] at gone
    rcases gone with rfl | rfl
    · exact ⟨_, .tail _ (.tail _ (.head _)), rfl, .unknownHandler "ghost", trivial, rfl⟩
    · exact ⟨_, .head _, rfl, .unknownFlow (Issue.id 0), trivial, rfl⟩
  have omits : Omits bellSteps (fun n => n == 0 || n == 2) (Record.opened ∅ .epoch) ringing
      [porch, .call (.start "porch" .user none), .reply 0 rung] := by
    refine .job (n := 0) rfl rfl (.kept (by rintro n ⟨⟩) (.kept (by rintro n ⟨⟩; rfl)
      (.job (n := 2) rfl rfl (.abort ?_ (.kept (by rintro n ⟨⟩; rfl) (.job (n := 2) rfl rfl
        (.done _)))))))
    exact Bool.false_ne_true
  exact ⟨turns, refused, ((refusals_unseen bellSteps turns).2.2.2.2 _ _ refused omits).1, rfl, rfl⟩

end Onboarding.Desk
