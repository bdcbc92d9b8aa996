import Onboarding.Proofs.Camera.Attempt
import Onboarding.Proofs.Flow.Aborted
import Onboarding.Proofs.Flow.Heedless
import Onboarding.Proofs.Flow.Manners
import Onboarding.Proofs.Flow.Runs

/-! Visits to devices. A user step that is given something to log in with has one client made, one
handshake, and that client logged out, before it changes anything in the registry; no other step
asks a device for anything. How the logout goes is of no consequence. -/
namespace Onboarding.Camera

open Desk Job

/-- What a step is given to log in with: only the user step of an onboarding flow is. -/
def given (step : String) (input : Option Data) : Memory → Option Data
  | .inl _ => if step = StepName.user then input else none
  | .inr _ => none

/-! The steps, by what they ask. -/

theorem indoors_part_onboard (input : Data) (i : Identified) (draft : Draft) :
    (Part.onboard input i draft).Abides (.only StepRequest.Indoors) := by
  refine ⟨trivial, fun c => ?_⟩
  dsimp only
  split
  · trivial
  · refine ⟨trivial, fun r => ?_⟩
    dsimp only
    split <;> trivial

theorem indoors_part_repair (input : Data) (i : Identified) (draft : Draft) (id : String) :
    (Part.repair input i draft id).Abides (.only StepRequest.Indoors) := by
  refine ⟨trivial, fun updated => ?_⟩
  match updated with
  | .error e => trivial
  | .ok false => trivial
  | .ok true => exact ⟨trivial, fun _ => trivial⟩

/-- Once the device has been left, the desk alone is asked. -/
theorem indoors_afterProbe (input : Data) (outcome : Except Fault Identified) (draft : Draft) :
    (afterProbe input outcome draft).Abides (.only StepRequest.Indoors) := by
  cases outcome with
  | error f => trivial
  | ok i =>
    rw [afterProbe_ok]
    refine ⟨trivial, fun claim => ?_⟩
    match claim with
    | .refused => trivial
    | .granted none => exact indoors_part_onboard input i draft
    | .granted (some e) =>
      cases reauth : draft.reauth with
      | true =>
        rw [Part.claimed_repair input i e reauth]
        exact indoors_part_repair input i draft e.id
      | false =>
        rw [Part.claimed_onboard input i (.inr reauth)]
        exact indoors_part_onboard input i draft

/-- A step that is given nothing to log in with asks the desk alone. -/
theorem indoors_steps {step : String} {input : Option Data} {memory : Memory}
    (nothing : given step input memory = none) :
    (steps step input memory).Abides (.only StepRequest.Indoors) := by
  cases memory with
  | inl draft =>
    change ((onboardingSteps step input draft).bind _).Abides _
    refine Prog.abides_bind ?_ fun _ => trivial
    unfold onboardingSteps
    by_cases user : step = StepName.user
    · have none : input = none := by rwa [given, if_pos user] at nothing
      rw [if_pos user, none]
      trivial
    rw [if_neg user]
    split
    · trivial
    split
    · cases input <;> trivial
    · trivial
  | inr protocol =>
    change ((optionsSteps step input protocol).bind _).Abides _
    refine Prog.abides_bind ?_ fun _ => trivial
    unfold optionsSteps
    split
    · cases input <;> trivial
    · trivial

/-- What is given something to log in with is the user step. -/
theorem steps_given {step : String} {input : Option Data} {memory : Memory} {data : Data}
    (something : given step input memory = some data) : ∃ draft, memory = .inl draft ∧
      steps step input memory = (userStep (some data) draft).bind fun (a, h) => .done (a, .inl h) := by
  cases memory with
  | inl draft =>
    by_cases user : step = StepName.user
    · rw [given, if_pos user] at something
      subst user something
      exact ⟨draft, rfl, rfl⟩
    · rw [given, if_neg user] at something
      cases something
  | inr protocol => cases something

/-- The replies to logouts. -/
def Exchange.IsLogout : Exchange → Prop
  | logout _ => True
  | _ => False

/-- No step heeds how a logout goes. -/
theorem heedless_steps : Steps.Heedless steps Exchange.IsLogout := by
  intro step input memory
  have apart (q : StepRequest device) (indoors : q.Indoors) : ¬ q.Among Exchange.IsLogout := by
    cases q with
    | outside q => exact indoors.elim
    | _ => exact fun among => among
  cases something : given step input memory with
  | none => exact Prog.heedless_of_only apart (indoors_steps something)
  | some data =>
    obtain ⟨draft, rfl, same⟩ := steps_given something
    rw [same]
    refine Prog.abides_bind ?_ fun _ => trivial
    rw [userStep_some]
    refine ⟨fun silent => silent.elim, fun c => ?_⟩
    refine ⟨fun silent => silent.elim, fun h => ?_⟩
    refine ⟨fun _ _ _ => rfl, fun l => ?_⟩
    exact Prog.heedless_of_only apart (indoors_afterProbe data h.outcome draft)

section Visits

variable {heard : List (Heard (Desk Memory) (.desk device))} {d : Desk Memory} {id : String}
  {owed : Option Data}

/-- What has been heard of devices. -/
def talk (heard : List (Heard (Desk Memory) (.desk device))) :
    List (Heard (Desk Memory) (.desk device)) :=
  heard.filter fun
    | ⟨.device _, _, _⟩ => true
    | _ => false

/-- What is asked of a device. -/
def exchange? : Calling device → Option Exchange
  | .device q => some q
  | _ => none

/-- How far a visit has come that is owed to the device of certain data, and what is to be asked
next: a client is made, it shakes hands, and it is logged out. No data, no visit. -/
inductive Visit :
    Option Data → List (Heard (Desk Memory) (.desk device)) → Option Exchange → Prop where
  | absent : Visit none [] none
  | begins {input : Data} :
    Visit (some input) [] (some (.client (.ofEntry input defaultOptions)))
  | made {input : Data} (c : Client) (d₁ : Desk Memory) :
    Visit (some input) [⟨.device (.client (.ofEntry input defaultOptions)), c, d₁⟩]
      (some (.handshake c.number))
  | shaken {input : Data} (c : Client) (h : Handshake) (d₁ d₂ : Desk Memory) :
    Visit (some input) [⟨.device (.client (.ofEntry input defaultOptions)), c, d₁⟩,
      ⟨.device (.handshake c.number), h, d₂⟩] (some (.logout c.number))
  | finished {input : Data} (c : Client) (h : Handshake) (l : Except Fault Unit)
    (d₁ d₂ d₃ : Desk Memory) : Visit (some input) (exchanged input c h l d₁ d₂ d₃) none

/-- What a step owes that has been given certain data to log in with: it asks of devices what its
visit comes to next, and changes the registry only when the visit is over. -/
def visiting (owed : Option Data) : Protocol (Desk Memory) (.desk device) where
  finds _ _ _ _ := True
  writes heard s t := t.registry = s.registry ∨ Visit owed (talk heard) none
  waits heard q _ := (∀ id, q ≠ .awaitFlow id) ∧ Visit owed (talk heard) (exchange? q)

/-- The visit is over, or there was none to make. -/
def visited (owed : Option Data) {α : Type} : Post (Desk Memory) (.desk device) α :=
  fun heard _ _ => Visit owed (talk heard) none

theorem talk_device (heard : List (Heard (Desk Memory) (.desk device))) (q : Exchange)
    (r : q.Reply) (d : Desk Memory) :
    talk (heard ++ [⟨.device q, r, d⟩]) = talk heard ++ [⟨.device q, r, d⟩] := by
  rw [talk, List.filter_append]
  rfl

theorem talk_hosting (heard : List (Heard (Desk Memory) (.desk device))) (q : Hosting)
    (r : q.Reply) (d : Desk Memory) : talk (heard ++ [⟨.hosting q, r, d⟩]) = talk heard := by
  rw [talk, List.filter_append]
  exact List.append_nil _

/-- Whoever has made the visit, or has none to make, stays away from devices. -/
theorem obeys_home {α : Type} {j : Work Memory device α} (home : j.Abides (hostingOnly _ _))
    (gone : Visit owed (talk heard) none) : j.Obeys (visiting owed) (visited owed) heard d := by
  refine obeys_of_abides (fun heard => Visit owed (talk heard) none) (fun heard q s gone asks => ?_)
    (fun heard q r s t gone asks _ => ?_) (fun heard s t gone => Or.inr gone) home gone
  · cases q with
    | hosting q => exact ⟨by rintro id ⟨⟩, gone⟩
    | _ => exact asks.elim
  · cases q with
    | hosting q =>
      rw [talk_hosting]
      exact gone
    | _ => exact asks.elim

/-- A step that is given something to log in with makes its visit, and every other step none. -/
theorem visits_takeStep {f : Flow Memory} (here : d.flows[id]? = some f) (step : String)
    (input : Option Data) (unmet : talk heard = []) :
    (Action.takeStep steps id step input).run.Obeys (visiting (given step input f.memory))
      (visited (given step input f.memory)) heard d := by
  rw [Action.obeys_takeStep_iff here]
  have settles (r : Except StepError Outcome × Memory) :
      (Action.settle id f.kind r : Action Memory device FlowResult).run.Abides (hostingOnly _ _) :=
    Action.abides_settle grants_hostingOnly id f.kind r
  cases owed : given step input f.memory with
  | none =>
    have asks := hostingOnly_of_indoors (H := Memory) id (indoors_steps owed)
    refine obeys_bind.mp (obeys_home (Prog.abides_bind asks settles) ?_)
    rw [unmet]
    exact .absent
  | some data =>
    obtain ⟨draft, _, same⟩ := steps_given owed
    rw [same, userStep_some]
    refine ⟨⟨by rintro id ⟨⟩, unmet ▸ .begins⟩, fun c d₁ _ => ?_⟩
    refine ⟨⟨by rintro id ⟨⟩, ?_⟩, fun h d₂ _ => ?_⟩
    · rw [talk_device, unmet]
      exact .made c d₁
    refine ⟨⟨by rintro id ⟨⟩, ?_⟩, fun l d₃ _ => ?_⟩
    · rw [talk_device, talk_device, unmet]
      exact .shaken c h d₁ d₂
    have indoors : Prog.Abides (.only StepRequest.Indoors)
        ((afterProbe data h.outcome draft).bind fun (a, h) => .done (a, (.inl h : Memory))) :=
      Prog.abides_bind (indoors_afterProbe data h.outcome draft) fun _ => trivial
    have asks := hostingOnly_of_indoors (H := Memory) id indoors
    refine obeys_bind.mp (obeys_home (Prog.abides_bind asks settles) ?_)
    rw [talk_device, talk_device, talk_device, unmet]
    exact .finished c h l d₁ d₂ d₃

/-- What the submit of an input gives the step of a flow to log in with, once it has its turn. -/
def givenAt (d : Desk Memory) (id : String) (input : Data) : Option Data :=
  match d.flows[id]? with
  | none => none
  | some f =>
    if f.finished then none
    else match f.schema.validate input with
      | .error _ => none
      | .ok clean => given f.step (some clean) f.memory

theorem givenAt_answerable {f : Flow Memory} {input clean : Data}
    (answerable : Action.Answerable d id input f clean) :
    givenAt d id input = given f.step (some clean) f.memory := by
  obtain ⟨here, unfinished, valid⟩ := answerable
  simp only [givenAt, here, unfinished, valid]
  rfl

theorem givenAt_unanswerable {input : Data}
    (other : ∀ f clean, ¬ Action.Answerable d id input f clean) : givenAt d id input = none := by
  unfold givenAt
  split
  · rfl
  rename_i f here
  split
  · rfl
  rename_i unfinished
  split
  · rfl
  · rename_i clean valid
    exact absurd ⟨here, eq_false_of_ne_true unfinished, valid⟩ (other f clean)

theorem givenAt_taken (d : Desk Memory) (id : String) (input : Data) :
    givenAt (d.modifyFlow id ({ · with busy := true })) id input = givenAt d id input := by
  rw [givenAt, givenAt, flow_modifyFlow_self]
  cases d.flows[id]? <;> rfl

/-- A submit makes the visit that it owes by the form that it finds in its turn. -/
theorem visits_turnJob (d : Desk Memory) (id : String) (input : Data) (unmet : talk heard = []) :
    (turnJob steps id input).Obeys (visiting (givenAt d id input)) (visited (givenAt d id input))
      heard d := by
  refine ⟨Or.inl rfl, obeys_closing.mpr ?_⟩
  refine obeys_imp (fun heard ended t gone => ⟨Or.inl rfl, gone⟩) (?_ : Obeys (visiting
    (givenAt d id input)) (visited (givenAt d id input)) _ heard
    (d.modifyFlow id ({ · with busy := true })))
  rw [← givenAt_taken]
  refine Action.obeys_answering (fun other e => ?_) fun f clean answerable => ?_
  · rw [visited, givenAt_unanswerable other, unmet]
    exact .absent
  · rw [givenAt_answerable answerable]
    exact visits_takeStep answerable.1 f.step (some clean) unmet

/-- A start makes the visit that its first step owes. -/
theorem visits_opens {kind : FlowKind} {memory : Memory} {c : Context} {step : String}
    {data : Option Data} (owes : given step data memory = owed) :
    Action.OpensBy steps (visiting owed) (visited owed) [] d kind memory c step data := by
  subst owes
  refine ⟨Or.inl rfl, Or.inl rfl, Action.obeys_underWay ?_⟩
  have here : (d.issue.2.enroll kind memory c step).flows[c.flowId]? =
      some { kind, memory, context := c, step, schema := .empty, busy := true } := by
    rw [flow_enroll, if_pos rfl]
  refine obeys_imp (fun heard ended t gone => ⟨Or.inl rfl, ?_⟩) (visits_takeStep here step data rfl)
  match ended with
  | .ok (.ok r) => exact gone
  | .ok (.error e) => exact ⟨Or.inl rfl, gone⟩
  | .error x => exact gone

/-- The desk at which a submit has its turn. -/
def turnAt (d : Desk Memory) : List (Heard (Desk Memory) (.desk device)) → Desk Memory
  | ⟨.awaitFlow _, _, found⟩ :: _ => found
  | _ => d

theorem turnAt_append {q : Calling device} (other : ∀ id, q ≠ .awaitFlow id) (r : q.Reply)
    (t : Desk Memory) : turnAt d (heard ++ [⟨q, r, t⟩]) = turnAt d heard := by
  cases heard with
  | nil =>
    cases q with
    | awaitFlow id => exact absurd rfl (other id)
    | _ => rfl
  | cons first rest =>
    obtain ⟨q', r', t'⟩ := first
    cases q' <;> rfl

/-- What a call that is made at a desk gives the step that it runs to log in with. -/
def owedBy (c : Call) (d : Desk Memory) (heard : List (Heard (Desk Memory) (.desk device))) :
    Option Data :=
  match c with
  | .start handler source data =>
    d.integrations[handler]?.bind fun i => given source.key data i.start
  | .submit id input => if id ∈ d.listed then givenAt (turnAt d heard) id input else none
  | _ => none

/-- What a call owes: it may have to wait for its turn, and then makes the visit that it owes. -/
def calling (c : Call) (d : Desk Memory) : Protocol (Desk Memory) (.desk device) where
  finds _ _ _ _ := True
  writes heard s t := t.registry = s.registry ∨ Visit (owedBy c d heard) (talk heard) none
  waits heard q _ := (∃ id, q = .awaitFlow id ∧ heard = []) ∨
    (∀ id, q ≠ .awaitFlow id) ∧ Visit (owedBy c d heard) (talk heard) (exchange? q)

def called (c : Call) (d : Desk Memory) {α : Type} : Post (Desk Memory) (.desk device) α :=
  fun heard _ _ => Visit (owedBy c d heard) (talk heard) none

theorem owedBy_append (c : Call) (d : Desk Memory) {q : Calling device}
    (other : ∀ id, q ≠ .awaitFlow id) (r : q.Reply) (t : Desk Memory) :
    owedBy c d (heard ++ [⟨q, r, t⟩]) = owedBy c d heard := by
  cases c with
  | submit id input => rw [owedBy, owedBy, turnAt_append other]
  | _ => rfl

/-- From its turn on a call owes what the step owes that it runs. -/
theorem obeys_calling {c : Call} {d t : Desk Memory} {data : Option Data} {α : Type}
    {j : Work Memory device α} (same : owedBy c d heard = data)
    (obeys : j.Obeys (visiting data) (visited data) heard t) :
    j.Obeys (calling c d) (called c d) heard t := by
  refine obeys_mono (fun heard _ => owedBy c d heard = data) (fun heard q r s t same waits _ => ?_)
    (fun heard s t same allowed => ⟨?_, same⟩) (fun heard q s same waits => ?_)
    (fun heard e t same gone => ?_) same obeys
  · exact ⟨trivial, (owedBy_append c d waits.1 r t).trans same⟩
  · cases same
    exact allowed
  · cases same
    exact .inr waits
  · cases same
    exact gone

/-- Every call makes the visit that it owes. -/
theorem visits_call (c : Call) (d : Desk Memory) :
    (c.job steps).Obeys (calling c d) (called c d) [] d := by
  refine obeys_map.mpr (?_ : (c.action steps).run.Obeys (calling c d) (called c d) [] d)
  cases c with
  | start handler source data =>
    refine obeys_calling rfl (Action.obeys_startConfig (fun unknown e => ?_) fun i registered => ?_)
    · rw [visited, owedBy, unknown]
      exact .absent
    · rw [owedBy, registered]
      exact visits_opens rfl
  | startReauth entryId =>
    refine obeys_calling rfl (Action.obeys_startReauth (fun e => .absent) fun e i _ _ => ?_)
    have nothing : given Source.reauth.key (some e.data) i.start = none := by
      cases i.start <;> rfl
    exact visits_opens nothing
  | startOptions entryId =>
    refine obeys_calling rfl (Action.obeys_startOptions (fun e => .absent) fun e i memory _ _ _ => ?_)
    have nothing : given StepName.init none memory = none := by
      cases memory <;> rfl
    exact visits_opens nothing
  | submit id input =>
    change Obeys (calling (.submit id input) d) (called (.submit id input) d)
      (ExceptT.run (if id ∉ d.listed then throw (FlowError.unknownFlow id) else
        Action.inTurn id (Action.answering steps id input) : Action Memory device FlowResult)) [] d
    by_cases listed : id ∈ d.listed
    · have turn {heard : List (Heard (Desk Memory) (.desk device))} {t : Desk Memory}
          (unmet : talk heard = []) (here : turnAt d heard = t) :
          (turnJob steps id input).Obeys (calling (.submit id input) d) (called (.submit id input) d)
            heard t := by
        refine obeys_calling ?_ (visits_turnJob t id input unmet)
        rw [owedBy, if_pos listed, here]
      rw [if_neg fun unlisted => unlisted listed]
      change Obeys _ _ (if d.flows[id]?.any Flow.busy = true then _ else _ : Work Memory device _) [] d
      split
      · exact ⟨.inl ⟨id, rfl, rfl⟩, fun _ t _ => turn rfl rfl⟩
      · exact turn rfl rfl
    · rw [if_pos listed]
      change Visit (owedBy (.submit id input) d []) [] none
      rw [owedBy, if_neg listed]
      exact .absent

/-- What the record shows of the job of a number, by what the job owes after what it has heard: it
waits for its turn at first, or for the device as its visit has it, or for others outside of its
visit; it changes the registry only when its visit is over, and ends only then. -/
structure Released (n : Nat) (owed : List (Heard (Desk Memory) (.desk device)) → Option Data)
    (r : Record Memory device) : Prop where
  waits : ∀ w ∈ r.pending, w.party.number = n → (∃ id, w.request = .awaitFlow id ∧ w.heard = []) ∨
    (∀ id, w.request ≠ .awaitFlow id) ∧ Visit (owed w.heard) (talk w.heard) (exchange? w.request)
  changes : ∀ deed ∈ r.deeds, deed.party.number = n →
    deed.after.registry ≠ deed.before.registry → Visit (owed deed.heard) (talk deed.heard) none
  ends : ∀ e ∈ r.ended, e.party.number = n → Visit (owed e.heard) (talk e.heard) none

end Visits

/-- In every run each call makes the visit that the step owes that it runs: a user step that is
given something to log in with has exactly one client made and logged out, before it changes the
registry, and no other step asks devices for anything. And two runs that differ in how logouts go
agree in everything but that. -/
theorem clients_released (handled : Std.ExtTreeSet String) (now : Instant) :
    (∀ (before later : List (Event Memory device)) (call : Call),
      let c := (Record.opened handled now).after steps before
      Released c.begun (owedBy call c.state)
        ((Record.opened handled now).after steps (before ++ .call call :: later))) ∧
    ∀ events events' : List (Event Memory device),
      List.Forall₂ (Event.Alike Exchange.IsLogout) events events' →
      Chronicle.Agree ((Record.opened handled now).after steps events)
        ((Record.opened handled now).after steps events') := by
  constructor
  · intro before later call c
    have counted : c.Counted := Record.counted_after (Record.counted_opened handled now) before
    have begun : Chronicle.Tracks c.begun (calling call c.state) (called call c.state)
        (c.happen steps (.call call)) := Record.tracks_call counted (visits_call call c.state)
    have old : c.begun < (c.happen steps (.call call)).begun := by
      rw [Record.happen, c.begun_start]
      exact Nat.lt_succ_self _
    have tracks := Record.tracks_after steps (fun _ _ _ _ => trivial) old begun later
    rw [Record.after_append]
    refine ⟨fun w member same => (tracks.pending w member same).1, fun deed member same changed => ?_,
      tracks.ended⟩
    exact (tracks.deeds deed member same).resolve_left changed
  · intro events events' alike
    have fresh : (Record.opened handled now : Record Memory device).Unheeding
        (Calling.Among Exchange.IsLogout) := by
      rintro w ⟨⟩
    exact Record.agree_after heedless_steps fresh (.refl _) alike

/-- The flow is shown, submitted to, and told of the device; the last to be answered is the logout. -/
def visitation (farewell : ∀ q : Calling device, Option q.Reply) : List (Event Memory device) :=
  shown ++ [.call (.submit (Issue.id 0) credentials), .reply 0 welcome, .reply 0 welcome,
    .reply 0 farewell]

/-- A camera that cannot be logged out of. -/
def clinging : ∀ q : Calling device, Option q.Reply
  | .device (.logout _) => some (.error (.connection "lost"))
  | q => welcome q

/-- The device is onboarded, whether the logout succeeds or fails. -/
theorem onboarded_either_way :
    let r := (Record.opened ∅ .epoch).after steps (visitation welcome)
    let r' := (Record.opened ∅ .epoch).after steps (visitation clinging)
    r.state = r'.state ∧ r.state.registry.size = 1 ∧ r.ended.length = 2 := by
  have alike : Chronicle.Alike (F := .desk device) (Calling.Among Exchange.IsLogout) welcome
      clinging := by
    intro q
    match q with
    | .device (.logout _) => exact ⟨rfl, fun heeded => absurd trivial heeded⟩
    | .device (.client _) | .device (.handshake _) | .awaitFlow _ | .hosting _ =>
      exact ⟨rfl, fun _ => rfl⟩
  have events : List.Forall₂ (Event.Alike Exchange.IsLogout) (visitation welcome)
      (visitation clinging) := by
    refine .cons (.same _) (.cons (.same _) (.cons (.same _) (.cons (.same _) (.cons (.same _) ?_))))
    exact .cons (.reply 0 alike) .nil
  obtain ⟨_, agree⟩ := clients_released ∅ .epoch
  exact ⟨(agree _ _ events).state, rfl, rfl⟩

end Onboarding.Camera
