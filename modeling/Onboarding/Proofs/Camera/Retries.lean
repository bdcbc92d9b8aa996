import Onboarding.Proofs.Camera.Submits

/-! Attempts to log in, one after the other. However often an onboarding flow has been submitted,
its form has the credentials of the last attempt filled in that has failed, and to submit it as it
stands is to try these again. -/
namespace Onboarding.Camera

open Desk Job

/-- The calls on a flow that have ended, the latest first. -/
abbrev Calls := List (Ended (Option String) (Desk Memory) (.desk device) Answer)

/-- The last attempt that has failed. -/
def lastFailure (calls : Calls) : Option Connection := calls.findSome? fun e => failure? e.heard

/-- What is filled in after some calls: the credentials of the last attempt that has failed, and of
the first draft if none has. -/
def drafted (first : Draft) (calls : Calls) : Draft :=
  (lastFailure calls).elim first first.tried

/-! The calls on a flow. -/

section Calls

variable {first : Draft} {calls : Calls} {f g : Flow Memory} {k : Connection}
  {e : Ended (Option String) (Desk Memory) (.desk device) Answer}

/-- What a call replies that comes after some others. -/
structure Replies (first : Draft) (older : Calls)
    (e : Ended (Option String) (Desk Memory) (.desk device) Answer) : Prop where
  /-- The user form fills in the credentials of the last attempt that has failed by then, and those
  of the first draft if none has. It asks for the port and the transport if it answers an attempt
  that fails. -/
  fields : ∀ r page, e.ending = .ok (.flow (.ok r)) → r.body = .form page →
    page.step = StepName.user →
    page.schema.fields = userFields (drafted first (e :: older)) (failure? e.heard).isSome
  /-- An attempt that fails is answered by the user form. -/
  failed : ∀ k, failure? e.heard = some k → ∃ r page, e.ending = .ok (.flow (.ok r)) ∧
    r.body = .form page ∧ page.step = StepName.user

/-- What the calls on a flow reply, each after those before it. -/
def Replied (first : Draft) (calls : Calls) : Prop :=
  ∀ e older, e :: older <:+ calls → Replies first older e

/-- How a flow stands after some calls: the form that it shows goes with what it remembers, and that
is the draft that the calls have made of the first one. -/
structure Stands (first : Draft) (calls : Calls) (f : Flow Memory) : Prop where
  memory : f.memory = .inl (drafted first calls)
  shows : lastFailure calls = none ∧ f.step = StepName.reauthConfirm ∨ f.step = StepName.user ∧
    f.schema = (drafted first calls).schema (lastFailure calls).isSome

theorem lastFailure_failed (failure : failure? e.heard = some k) :
    lastFailure (e :: calls) = some k := by
  rw [lastFailure, List.findSome?_cons, failure]

theorem lastFailure_unfailed (unfailed : failure? e.heard = none) :
    lastFailure (e :: calls) = lastFailure calls := by
  rw [lastFailure, List.findSome?_cons, unfailed]
  rfl

theorem drafted_failed (first : Draft) (calls : Calls) (failure : failure? e.heard = some k) :
    drafted first (e :: calls) = (drafted first calls).tried k := by
  rw [drafted, lastFailure_failed failure, drafted]
  cases lastFailure calls <;> rfl

theorem drafted_unfailed (first : Draft) (calls : Calls) (unfailed : failure? e.heard = none) :
    drafted first (e :: calls) = drafted first calls := by
  rw [drafted, lastFailure_unfailed unfailed, drafted]

theorem Stands.awaits (stands : Stands first calls f) : Awaits f := by
  rcases stands.shows with ⟨_, confirm⟩ | ⟨user, schema⟩
  · exact .confirmation stands.memory confirm
  · exact .credentials stands.memory user schema

theorem Stands.goes (stands : Stands first calls f) (goes : Goes f e.heard e.ending g) :
    Stands first (e :: calls) g := by
  generalize e.ending = ended at goes
  cases goes with
  | failed memory failure body user schema rests =>
    cases stands.memory.symm.trans memory
    rw [← drafted_failed first calls failure] at schema rests
    refine ⟨rests.memory, .inr ⟨rests.step.trans user, ?_⟩⟩
    rw [lastFailure_failed failure]
    exact rests.schema.trans schema
  | asked memory confirm unfailed body user schema rests =>
    cases stands.memory.symm.trans memory
    have untried : lastFailure calls = none := by
      rcases stands.shows with ⟨none, _⟩ | ⟨user, _⟩
      · exact none
      · exact absurd (user.symm.trans confirm) (by decide)
    rw [← drafted_unfailed first calls unfailed] at schema rests
    refine ⟨rests.memory, .inr ⟨rests.step.trans user, ?_⟩⟩
    rw [lastFailure_unfailed unfailed, untried]
    exact rests.schema.trans schema
  | rested unfailed formless rests =>
    refine ⟨?_, ?_⟩
    · rw [drafted_unfailed first calls unfailed]
      exact rests.memory.trans stands.memory
    · rw [drafted_unfailed first calls unfailed, lastFailure_unfailed unfailed, rests.step,
        rests.schema]
      exact stands.shows

theorem replied_cons (before : Replied first calls) (last : Replies first calls e) :
    Replied first (e :: calls) := by
  intro e' older among
  rcases List.suffix_cons_iff.mp among with same | among
  · cases same
    exact last
  · exact before e' older among

/-- A call replies by what the flow stands with after it. -/
theorem Stands.replies (stands : Stands first calls f) (goes : Goes f e.heard e.ending g) :
    Replies first calls e := by
  generalize ended : e.ending = ending at goes
  cases goes with
  | failed memory failure body user schema _ =>
    refine ⟨fun r page answer form _ => ?_, fun k _ => ⟨_, _, ended, body, user⟩⟩
    cases ended.symm.trans answer
    cases stands.memory.symm.trans memory
    cases form.symm.trans body
    rw [schema, fields_schema, drafted_failed first calls failure, failure]
    rfl
  | asked memory _ unfailed body _ schema _ =>
    refine ⟨fun r page answer form _ => ?_, fun k failed => ?_⟩
    · cases ended.symm.trans answer
      cases stands.memory.symm.trans memory
      cases form.symm.trans body
      rw [schema, fields_schema, drafted_unfailed first calls unfailed, unfailed]
      rfl
    · cases unfailed.symm.trans failed
  | rested unfailed formless _ =>
    refine ⟨fun r page answer form _ => ?_, fun k failed => ?_⟩
    · exact absurd form (formless r page (ended.symm.trans answer))
    · cases unfailed.symm.trans failed

/-- Whatever the calls have been, the flow stands as they have left it. -/
theorem stands_of_made {start : Flow Memory} {es : Calls} (stands : Stands first calls start)
    (replied : Replied first calls) (made : Made Goes start es f) :
    Stands first (es ++ calls) f ∧ Replied first (es ++ calls) := by
  induction made with
  | nil => exact ⟨stands, replied⟩
  | cons made goes ih => exact ⟨ih.1.goes goes, replied_cons ih.2 (ih.1.replies goes)⟩

/-! The empty input. -/

/-- The login with the credentials of an attempt, and nothing else. -/
def again (k : Connection) : Login := ⟨k.host, k.username, k.password, none, none⟩

/-- A form that fills in an attempt takes the empty input for its credentials. -/
theorem validate_tried (draft : Draft) (k : Connection) (overrides : Bool) :
    ((draft.tried k).schema overrides).validate ∅ = .ok (again k).data := by
  rw [Schema.validate, fields_schema]
  cases overrides <;> rfl

/-- After an attempt that has failed the flow shows the user form, which takes the empty input. -/
theorem Stands.user (stands : Stands first calls f) (failed : lastFailure calls = some k) :
    f.step = StepName.user := by
  rcases stands.shows with ⟨untried, _⟩ | ⟨user, _⟩
  · cases untried.symm.trans failed
  · exact user

theorem Stands.answerable {d : Desk Memory} {id : String} (stands : Stands first calls f)
    (failed : lastFailure calls = some k) (here : d.flows[id]? = some f)
    (unfinished : f.finished = false) : Action.Answerable d id ∅ f (again k).data := by
  refine ⟨here, unfinished, ?_⟩
  rcases stands.shows with ⟨untried, _⟩ | ⟨_, schema⟩
  · cases untried.symm.trans failed
  · rw [schema, drafted, failed]
    exact validate_tried first k true

end Calls

section Runs

variable {c : Record Memory device} {id : String} {first : Draft} {calls : Calls} {f : Flow Memory}
  {k : Connection}

theorem begun_visit {data : Data} {q : Calling device}
    (visit : Visit (some data) [] (exchange? q)) :
    q = .device (.client (.ofEntry data defaultOptions)) := by
  generalize asked : exchange? q = next at visit
  cases visit
  cases q with
  | device x =>
    cases asked
    rfl
  | hosting | awaitFlow => cases asked

/-- A submit to a user form at which nobody has the turn asks for a client at once, for the login
that the form has accepted. -/
theorem client_submitted {draft : Draft} {input : Data} {l : Login}
    (answerable : Action.Answerable c.state id input f l.data) (memory : f.memory = .inl draft)
    (user : f.step = StepName.user) (listed : id ∈ c.state.listed) (free : ¬ c.state.Busy id) :
    ∃ w, (c.happen steps (.call (.submit id input))).pending = c.pending ++ [w] ∧
      w.party = ⟨c.begun, some id⟩ ∧
      w.request = .device (.client (l.connection defaultProtocol)) := by
  have owes : givenAt c.state id input = some l.data :=
    givenAt_user memory answerable.1 answerable user
  have visits : (turnJob steps id input).Obeys (visiting (givenAt c.state id input))
      (visited (givenAt c.state id input)) [] c.state := visits_turnJob c.state id input rfl
  rw [owes] at visits
  obtain ⟨c', written, ⟨q, next, waits, ⟨_, visit⟩, _⟩ | ⟨_, _, _, _, visit⟩⟩ :=
    Chronicle.follow_obeys (p := ⟨c.begun, some id⟩) (c := { c with begun := c.begun + 1 })
      (obeys_answered visits)
  · have happens := (submit_free listed free input).trans waits
    refine ⟨⟨⟨c.begun, some id⟩, [], c'.state, q, next⟩, ?_, rfl, ?_⟩
    · rw [happens, Chronicle.await, written.pending]
    · change q = _
      rw [begun_visit visit, l.ofEntry_data]
      rfl
  · cases visit

/-- A call that starts an onboarding flow, and the draft that the flow starts with. -/
inductive Starts (d : Desk Memory) : Call → Draft → Prop where
  | user {handler : String} (registered : d.integrations[handler]? = some integration) :
    Starts d (.start handler .user none)
      { host := none, username := defaultUsername, password := none, reauth := false }
  | reauth {entryId : String} {e : Entry} (held : d.registry.get? entryId = some e)
    (registered : d.integrations[e.domain]? = some integration) :
    Starts d (.startReauth entryId)
      { host := e.data.text? Key.host
        username := (e.data.text? Key.username).getD defaultUsername
        password := e.data.text? Key.password
        reauth := true }

/-- A flow that has answered its first form stands as it was started. -/
theorem stands_first {e : Ended (Option String) (Desk Memory) (.desk device) Answer}
    {r : FlowResult} {page : Page} (deaf : e.heard = []) (answer : e.ending = .ok (.flow (.ok r)))
    (body : r.body = .form page) (memory : f.memory = .inl first) (step : f.step = page.step)
    (schema : f.schema = page.schema)
    (shows : page.step = StepName.reauthConfirm ∨
      page.step = StepName.user ∧ page.schema = first.schema false) :
    Stands first [e] f ∧ Replied first [e] := by
  have unfailed : failure? e.heard = none := by
    rw [deaf]
    rfl
  have untried : lastFailure [e] = none := lastFailure_unfailed unfailed
  have same : drafted first [e] = first := drafted_unfailed first [] unfailed
  have before : Replied first [] := fun e' older among => by cases List.suffix_nil.mp among
  refine ⟨⟨?_, ?_⟩, replied_cons before ⟨fun r' page' answer' body' user => ?_, fun k failed => ?_⟩⟩
  · rw [same]
    exact memory
  · rw [untried, same, step, schema]
    exact shows.imp_left fun confirm => ⟨rfl, confirm⟩
  · cases answer.symm.trans answer'
    cases body.symm.trans body'
    rcases shows with confirm | ⟨_, shows⟩
    · exact absurd (user.symm.trans confirm) (by decide)
    · rw [unfailed, same, shows, fields_schema]
      rfl
  · cases unfailed.symm.trans failed

theorem Starts.stands {start : Call} (begins : Starts c.state start first) :
    ∃ f calls, f.busy = false ∧
      (c.happen steps (.call start)).state.flows[Issue.id c.state.issued]? = some f ∧
      (c.happen steps (.call start)).callsOn (Issue.id c.state.issued) =
        calls ++ c.callsOn (Issue.id c.state.issued) ∧
      Stands first calls f ∧ Replied first calls := by
  cases begins with
  | @user handler registered =>
    let page : Page := ⟨StepName.user, Draft.schema {} false, ∅, Complaint.wording ""⟩
    let f : Flow Memory := {
      kind := .config
      memory := .inl {}
      context := ⟨Issue.id c.state.issued, handler, .user, 1, none, none⟩
      step := page.step
      schema := page.schema }
    obtain ⟨e, r, calls, deaf, answer, body, here⟩ :=
      Record.callsOn_start steps c (.start handler .user none) page f <| by
        refine Action.obeys_startConfig (fun unknown => ?_) fun i found => ?_
        · cases unknown.symm.trans registered
        · cases found.symm.trans registered
          exact prompt_answers (c := f.context) rfl rfl fun r t body here => ⟨r, rfl, body, here⟩
    exact ⟨f, [e], rfl, here, calls,
      stands_first deaf answer body rfl rfl rfl (.inr ⟨rfl, rfl⟩)⟩
  | @reauth entryId entry held registered =>
    let page : Page := ⟨StepName.reauthConfirm, .empty, ∅, ∅⟩
    let f : Flow Memory := {
      kind := .config
      memory := .inl (Draft.ofEntry entry.data)
      context := ⟨Issue.id c.state.issued, entry.domain, .reauth, 1, none, some entryId⟩
      step := page.step
      schema := page.schema }
    obtain ⟨e, r, calls, deaf, answer, body, here⟩ :=
      Record.callsOn_start steps c (.startReauth entryId) page f <|
        Action.obeys_startReauth_at held registered
          (prompt_answers (c := f.context) rfl rfl fun r t body here => ⟨r, rfl, body, here⟩)
    exact ⟨f, [e], rfl, here, calls, stands_first deaf answer body rfl rfl rfl (.inl rfl)⟩

/-- What is so of the forms of an onboarding flow that was started with a first draft, and of what
it is submitted next. -/
structure Retries (first : Draft) (id : String) (calls : Calls) (c : Record Memory device) :
    Prop where
  replied : Replied first calls
  /-- After an attempt that has failed the form takes the empty input, and a client is made with the
  same credentials, and with neither port nor transport. -/
  again : ∀ k, lastFailure calls = some k → id ∈ c.state.listed → ¬ c.state.Busy id →
    (∃ f clean, Action.Answerable c.state id ∅ f clean) ∧
    ∃ w, (c.happen steps (.call (.submit id ∅))).pending = c.pending ++ [w] ∧
      w.party = ⟨c.begun, some id⟩ ∧ w.request = .device (.client {
        host := k.host, username := k.username, password := k.password
        port := none, useHttps := none, protocol := defaultProtocol, timeout := defaultTimeout })

/-- On every run on which the calls on a flow take turns, an onboarding flow shows what was tried
last without success, and the empty input tries it again. -/
theorem retries_filled_in (d : Desk Memory) (before later : List (Event Memory device))
    (start : Call) (first : Draft)
    (turns : (Record.restarted d).TakesTurns steps (before ++ .call start :: later)) :
    let c₀ := (Record.restarted d).after steps before
    let id := Issue.id c₀.state.issued
    let c := (Record.restarted d).after steps (before ++ .call start :: later)
    Starts c₀.state start first →
      ∃ calls, c.callsOn id = calls ++ c₀.callsOn id ∧ Retries first id calls c := by
  intro c₀ id c begins
  obtain ⟨f₀, calls₀, free, here, calls, stands, replied⟩ := begins.stands
  obtain ⟨early, _, late⟩ := Record.takesTurns_append.mp turns
  have turns₁ : (Record.restarted d).TakesTurns steps (before ++ [.call start]) :=
    Record.takesTurns_append.mpr ⟨early, trivial, trivial⟩
  have begun : Record.after steps (Record.restarted d) (before ++ [.call start]) =
      c₀.happen steps (.call start) := Record.after_append ..
  have ended : Record.after steps (c₀.happen steps (.call start)) later = c :=
    ((Record.restarted d).after_append before (.call start :: later)).symm
  have ledger₁ := ledger_restarted d turns₁
  have ledger := ledger_restarted d turns
  rw [begun] at ledger₁
  have seating := (Seating.started (R := Goes) ledger₁ here free).after
    (Practice.none_trains steps) (sits_steps id) stands.awaits ledger₁ late
    (fun domain i _ => Practice.none_admits domain i) fun _ _ never => never.elim
  rw [ended] at seating
  obtain ⟨es, f, calls', made, rests⟩ := seating.made
  obtain ⟨stands', replied'⟩ := stands_of_made stands replied made
  refine ⟨es ++ calls₀, by rw [calls', calls, List.append_assoc], replied', ?_⟩
  intro k failed listed idle
  have here : c.state.flows[id]? = some f := rests fun inStep => idle (ledger.busy inStep)
  have answerable := stands'.answerable failed here (ledger.sound.tabled.unfinished listed here)
  exact ⟨⟨f, _, answerable⟩, client_submitted answerable stands'.memory
    (stands'.user failed) listed idle⟩

end Runs

/-- A camera that does not know the account. -/
def refusing : ∀ q : Calling device, Option q.Reply
  | .device (.handshake _) => some ⟨openCamera, .failed .credentialsInvalid⟩
  | q => welcome q

/-- A new desk. -/
def welcoming : Record Memory device :=
  (Record.restarted { now := .epoch }).after steps [.integrate domain integration]

def newFlow : Call := .start domain .user none

/-- The user logs in, and is refused. -/
def refusal : List (Event Memory device) :=
  [.call (.submit (Issue.id 0) credentials), .reply 0 refusing, .reply 0 refusing,
    .reply 0 refusing]

def refused : Record Memory device :=
  (Record.restarted { now := .epoch }).after steps
    ([.integrate domain integration] ++ .call newFlow :: refusal)

theorem takesTurns_refusal : (welcoming.happen steps (.call newFlow)).TakesTurns steps refusal := by
  refine ⟨trivial, ?_, ?_, ?_, trivial⟩
  · exact Record.grants_device [.client ⟨"h", "u", "p", none, none, "rtsp", 60⟩] rfl
  · exact Record.grants_device [.handshake 0] rfl
  · exact Record.grants_device [.logout 0] rfl

/-- The form fills in what was refused, and takes the empty input for it. -/
theorem refused_again :
    (Record.restarted { now := .epoch }).TakesTurns steps
      ([.integrate domain integration] ++ .call newFlow :: refusal) ∧
    Starts welcoming.state newFlow {} ∧
    (∃ calls, refused.callsOn (Issue.id 0) = calls ++ welcoming.callsOn (Issue.id 0) ∧
      Retries {} (Issue.id 0) calls refused) ∧
    lastFailure (refused.callsOn (Issue.id 0)) = some ⟨"h", "u", "p", none, none, "rtsp", 60⟩ ∧
    (refused.happen steps (.call (.submit (Issue.id 0) ∅))).pending.map (fun w => w.request) =
      [.device (.client ⟨"h", "u", "p", none, none, "rtsp", 60⟩)] := by
  have turns : (Record.restarted { now := .epoch }).TakesTurns steps
      ([.integrate domain integration] ++ .call newFlow :: refusal) :=
    ⟨trivial, trivial, takesTurns_refusal⟩
  have begins : Starts welcoming.state newFlow {} := .user rfl
  exact ⟨turns, begins,
    retries_filled_in { now := .epoch } _ refusal newFlow {} turns begins, rfl, rfl⟩

end Onboarding.Camera
