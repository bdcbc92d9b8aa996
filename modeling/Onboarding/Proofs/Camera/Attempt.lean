import Onboarding.Camera.Onboard
import Onboarding.Proofs.Flow.Rules

/-! Attempts to onboard a device. A submitted form has a client made, a handshake and a logout; then
the flow claims the address that was reported and ends by what it finds: the device is new, or it
is known, or known and to be repaired. -/
namespace Onboarding.Camera

open Desk Job

/-- What a handshake tells of a device, or why it does not. A missing address comes before a missing
permission. -/
def Handshake.outcome (h : Handshake) : Except Fault Identified :=
  match h.ending with
  | .failed f => .error f
  | .crashed x => .error (.unexpected (Session.crashText x))
  | .succeeded =>
    match h.report.address with
    | none => .error Session.noAddress
    | some address =>
      if h.report.isAdmin then
        .ok ⟨Device.canonicalAddress address, h.report.name, h.report.port, h.report.useHttps⟩
      else .error (.userNotAdmin h.report.username h.report.userLevel)

theorem Session.learned_afterHandshake (s : Session) (h : Handshake) :
    (s.afterHandshake h).1.learned (s.afterHandshake h).2 = h.outcome := by
  unfold afterHandshake Handshake.outcome
  cases h.ending with
  | failed f => rfl
  | crashed x => rfl
  | succeeded =>
    cases h.report.address with
    | none => rfl
    | some address =>
      dsimp only
      split <;> rfl

theorem Session.client_afterHandshake (s : Session) (h : Handshake) :
    (s.afterHandshake h).1.client = s.client := by
  unfold afterHandshake
  cases h.ending with
  | failed f => rfl
  | crashed x => rfl
  | succeeded =>
    cases h.report.address with
    | none => rfl
    | some address =>
      dsimp only
      split <;> rfl

/-- The device that a handshake identifies has the canonical form of the address that it reports. -/
theorem Handshake.outcome_ok {h : Handshake} {i : Identified} (told : h.outcome = .ok i) :
    ∃ address, h.report.address = some address ∧
      i.uniqueId = Device.canonicalAddress address := by
  unfold outcome at told
  split at told
  · cases told
  · cases told
  split at told
  · cases told
  rename_i address reported
  split at told
  · cases told
    exact ⟨address, reported, rfl⟩
  · cases told

/-! The user step, in the order in which it asks. -/

/-- What the user step does with the outcome of the handshake. -/
def afterProbe (input : Data) : Except Fault Identified → Step Draft device Outcome
  | .error f => do
    modify (·.keep input)
    showUserForm (Complaint.ofFault f)
  | .ok i => do
    let data := completed input i
    match ← Step.claim i.uniqueId false, (← get).reauth with
    | some e, true => Step.endWithUpdate e.id data reauthSuccessful
    | _, _ =>
      Step.endIfConfigured none
      return .create i.name data defaultOptions

theorem userStep_eq (input : Data) :
    userStep (some input) = (do afterProbe input (← Step.ofProg (Session.probe input))) := by
  unfold userStep afterProbe
  rfl

theorem userStep_some (input : Data) (draft : Draft) :
    userStep (some input) draft =
      .ask (.outside (.client (.ofEntry input defaultOptions))) fun c =>
        .ask (.outside (.handshake c.number)) fun h =>
          .ask (.outside (.logout c.number)) fun _ => afterProbe input h.outcome draft := by
  rw [userStep_eq]
  refine congrArg (Prog.ask _) (funext fun c => congrArg (Prog.ask _) (funext fun h => ?_))
  have told (o : Session × Ending) :
      (do afterProbe input (← Step.ofProg (do o.1.stop; return o.1.learned o.2)) :
        Step Draft device Outcome) draft =
        .ask (.outside (.logout o.1.client)) fun _ => afterProbe input (o.1.learned o.2) draft := rfl
  refine (told (Session.afterHandshake { client := c.number, report := c.report } h)).trans ?_
  rw [Session.client_afterHandshake, Session.learned_afterHandshake]

/-- A part of a step of an onboarding flow, with what it remembers. -/
abbrev Part := Prog (.step device) (Except StepError Outcome × Draft)

/-- The end of a flow without a repair: the device is onboarded unless it is known by now. -/
def Part.onboard (input : Data) (i : Identified) (draft : Draft) : Part :=
  .ask .context fun c =>
    match c.uniqueId with
    | none => .done (.ok (.create i.name (completed input i) defaultOptions), draft)
    | some uniqueId => .ask .registry fun r =>
      match r.holder? ⟨c.handler, uniqueId⟩ with
      | none => .done (.ok (.create i.name (completed input i) defaultOptions), draft)
      | some _ => .done (.error (.abort alreadyConfigured), draft)

/-- What a repair ends with after its reload. That the setup fails is no failure of the repair. -/
def repaired : Except RegistryError Unit → Except StepError Outcome
  | .ok _ => .ok (.abort reauthSuccessful)
  | .error (.setupFailed _) => .ok (.abort reauthSuccessful)
  | .error e => .error (.registry e)

/-- A repair succeeds, or fails as the registry does. -/
theorem repaired_cases (r : Except RegistryError Unit) :
    repaired r = .ok (.abort reauthSuccessful) ∨ ∃ e, repaired r = .error (.registry e) := by
  unfold repaired
  split
  · exact .inl rfl
  · exact .inl rfl
  · exact .inr ⟨_, rfl⟩

/-- The end of a repair after its update. An entry that had the data already is not reloaded. -/
def Part.updated (draft : Draft) (id : String) : Except RegistryError Bool → Part
  | .error e => .done (.error (.registry e), draft)
  | .ok false => .done (.ok (.abort reauthSuccessful), draft)
  | .ok true => .ask (.reload id) fun r => .done (repaired r, draft)

/-- The data that a repair gives an entry. -/
def renewal (input : Data) (i : Identified) : Entry.Update := { data := some (completed input i) }

/-- The end of a repair. -/
def Part.repair (input : Data) (i : Identified) (draft : Draft) (id : String) : Part :=
  .ask (.update id (renewal input i)) (Part.updated draft id)

theorem onboard_eq (input : Data) (i : Identified) (draft : Draft) :
    (do Step.endIfConfigured none; return .create i.name (completed input i) defaultOptions :
      Step Draft device Outcome) draft = Part.onboard input i draft := by
  let made := Outcome.create i.name (completed input i) defaultOptions
  have ends (held : Option Entry) :
      ((match held with
        | none => pure ()
        | some _ => throw (StepError.abort alreadyConfigured) : Step Draft device PUnit) >>=
          fun _ => pure made) draft =
        match held with
        | none => .done (.ok made, draft)
        | some _ => .done (.error (StepError.abort alreadyConfigured), draft) := by
    cases held <;> rfl
  refine congrArg (Prog.ask _) (funext fun c => ?_)
  obtain ⟨flowId, handler, source, version, uniqueId, entryId⟩ := c
  cases uniqueId with
  | none => rfl
  | some uniqueId =>
    exact congrArg (Prog.ask _) (funext fun r => ends (r.holder? ⟨handler, uniqueId⟩))

theorem repair_eq (input : Data) (i : Identified) (draft : Draft) (id : String) :
    (Step.endWithUpdate id (completed input i) reauthSuccessful : Step Draft device Outcome) draft =
      Part.repair input i draft id := by
  refine congrArg (Prog.ask _) (funext fun updated => ?_)
  match updated with
  | .error e => rfl
  | .ok false => rfl
  | .ok true =>
    refine congrArg (Prog.ask _) (funext fun reloaded => ?_)
    match reloaded with
    | .ok _ => rfl
    | .error (.setupFailed _) => rfl
    | .error (.notFound _) => rfl
    | .error (.alreadyExists _) => rfl
    | .error (.refused _) => rfl
    | .error (.storage _) => rfl

/-- What comes of the claim of a unique id: only a repair of an entry that is there is none of a
new one. -/
def Part.claimed (input : Data) (i : Identified) (draft : Draft) : Claim → Part
  | .refused => .done (.error (.abort alreadyInProgress), draft)
  | .granted existing =>
    match existing, draft.reauth with
    | some e, true => Part.repair input i draft e.id
    | _, _ => Part.onboard input i draft

theorem Part.claimed_repair (input : Data) (i : Identified) {draft : Draft} (e : Entry)
    (reauth : draft.reauth = true) :
    claimed input i draft (.granted (some e)) = repair input i draft e.id := by
  cases draft
  cases reauth
  rfl

theorem Part.claimed_onboard (input : Data) (i : Identified) {draft : Draft}
    {existing : Option Entry} (other : existing = none ∨ draft.reauth = false) :
    claimed input i draft (.granted existing) = onboard input i draft := by
  cases existing with
  | none => rfl
  | some e =>
    cases draft
    cases other.resolve_left (by rintro ⟨⟩)
    rfl

theorem afterProbe_ok (input : Data) (i : Identified) (draft : Draft) :
    afterProbe input (.ok i) draft =
      .ask (.claim i.uniqueId false) (Part.claimed input i draft) := by
  refine congrArg (Prog.ask _) (funext fun claim => ?_)
  match claim with
  | .refused => rfl
  | .granted none => exact onboard_eq input i draft
  | .granted (some e) =>
    obtain ⟨host, username, password, reauth⟩ := draft
    cases reauth with
    | true => exact repair_eq input i _ e.id
    | false => exact onboard_eq input i _

/-! The attempt at the desk. -/

variable {T : Terms (Desk Memory) (.desk device)}
  {post : Post (Desk Memory) (.desk device) (Except FlowError FlowResult)}
  {heard : List (Heard (Desk Memory) (.desk device))} {d : Desk Memory} {id : String}
  {kind : FlowKind} {input : Data} {draft : Draft} {i : Identified}

/-- What an attempt ensures from the logout on. -/
def Decides (T : Terms (Desk Memory) (.desk device))
    (post : Post (Desk Memory) (.desk device) (Except FlowError FlowResult)) (id : String)
    (kind : FlowKind) (p : Part) (heard : List (Heard (Desk Memory) (.desk device)))
    (d : Desk Memory) : Prop :=
  Ensures T (andThen T (fun r => (Action.settle id kind r).run) post)
    (Prog.interpret (S := .step device) (Work.answer id) (p.bind fun (a, h) => .done (a, .inl h)))
    heard d

theorem Decides.imp {p : Part}
    {later : Post (Desk Memory) (.desk device) (Except FlowError FlowResult)}
    (decides : Decides T post id kind p heard d)
    (weaker : ∀ heard e t, post heard e t → later heard e t) : Decides T later id kind p heard d :=
  ensures_bind.mp (ensures_imp weaker (ensures_bind.mpr decides))

/-- What an attempt hears of a device, and the desk as it was after each reply. -/
def exchanged (input : Data) (c : Client) (h : Handshake) (l : Except Fault Unit)
    (d₁ d₂ d₃ : Desk Memory) : List (Heard (Desk Memory) (.desk device)) :=
  [⟨.device (.client (.ofEntry input defaultOptions)), c, d₁⟩,
    ⟨.device (.handshake c.number), h, d₂⟩, ⟨.device (.logout c.number), l, d₃⟩]

/-- An attempt comes to what it comes to once the device has been asked who it is. -/
theorem ensures_attempt {flow : Flow Memory} (here : d.flows[id]? = some flow)
    (memory : flow.memory = .inl draft)
    (decides : ∀ c d₁, T.finds (.device (.client (.ofEntry input defaultOptions))) c d d₁ →
      ∀ h d₂, T.finds (.device (.handshake c.number)) h d₁ d₂ →
      ∀ l d₃, T.finds (.device (.logout c.number)) l d₂ d₃ →
        Decides T post id flow.kind (afterProbe input h.outcome draft)
          (heard ++ exchanged input c h l d₁ d₂ d₃) d₃) :
    (Action.takeStep steps id StepName.user (some input)).run.Ensures T post heard d := by
  have same : steps StepName.user (some input) flow.memory =
      (userStep (some input) draft).bind fun (a, h) => .done (a, .inl h) := by
    rw [memory]
    rfl
  rw [Action.ensures_takeStep_iff here, same, userStep_some]
  intro c d₁ found₁ h d₂ found₂ l d₃ found₃
  have decided := decides c d₁ found₁ h d₂ found₂ l d₃ found₃
  rw [Decides, exchanged, List.append_cons, List.append_cons] at decided
  exact decided

theorem decides_fault {f : Fault}
    (settles : (Action.settle id kind (.ok (.form {
        step := StepName.user
        schema := (draft.keep input).schema !(Complaint.ofFault f).errors.isEmpty
        errors := (Complaint.ofFault f).errors
        placeholders := (Complaint.ofFault f).placeholders }),
      (.inl (draft.keep input) : Memory))).run.Ensures T post heard d) :
    Decides T post id kind (afterProbe input (.error f) draft) heard d := settles

/-- A desk where a flow has claimed a unique id. -/
def claimed (d : Desk Memory) (id uniqueId : String) : Desk Memory :=
  (d.modifyProgress id ({ · with uniqueId := some uniqueId })).modifyFlow id fun f =>
    { f with context := { f.context with uniqueId := some uniqueId } }

theorem contextOf_claimed {g : Flow Memory} (here : d.flows[id]? = some g) (uniqueId : String) :
    (claimed d id uniqueId).contextOf id = { g.context with uniqueId := some uniqueId } := by
  have claims : (claimed d id uniqueId).flows[id]? = some { g with
      context := { g.context with uniqueId := some uniqueId } } := by
    rw [claimed, flow_modifyFlow]
    simp [modifyProgress, here]
  rw [contextOf, claims]
  rfl

theorem decides_onboard {g : Flow Memory} (here : d.flows[id]? = some g)
    (settles : (Action.settle id kind
      (match d.registry.holder? ⟨g.context.handler, i.uniqueId⟩ with
        | none => .ok (.create i.name (completed input i) defaultOptions)
        | some _ => .error (.abort alreadyConfigured),
      (.inl draft : Memory))).run.Ensures T post heard (claimed d id i.uniqueId)) :
    Decides T post id kind (Part.onboard input i draft) heard (claimed d id i.uniqueId) := by
  let ends (held : Option Entry) : Part := match held with
    | none => .done (.ok (.create i.name (completed input i) defaultOptions), draft)
    | some _ => .done (.error (.abort alreadyConfigured), draft)
  change Ensures T _ (Prog.interpret (S := .step device) (Work.answer id) (Prog.bind
    (match ((claimed d id i.uniqueId).contextOf id).uniqueId with
      | none => .done (.ok (.create i.name (completed input i) defaultOptions), draft)
      | some uniqueId => .ask .registry fun r =>
        ends (r.holder? ⟨((claimed d id i.uniqueId).contextOf id).handler, uniqueId⟩)) _))
    heard (claimed d id i.uniqueId)
  rw [contextOf_claimed here]
  change Ensures T _ (Prog.interpret (S := .step device) (Work.answer id) (Prog.bind
    (ends (d.registry.holder? ⟨g.context.handler, i.uniqueId⟩)) _)) heard _
  cases held : d.registry.holder? ⟨g.context.handler, i.uniqueId⟩ <;> rw [held] at settles <;>
    exact settles

theorem decides_claim {g : Flow Memory} (here : d.flows[id]? = some g)
    (claims : T.writes heard d (claimed d id i.uniqueId))
    (decides : Decides T post id kind (Part.claimed input i draft
      (.granted (d.registry.holder? ⟨g.context.handler, i.uniqueId⟩)))
      heard (claimed d id i.uniqueId)) :
    Decides T post id kind (afterProbe input (.ok i) draft) heard d := by
  have context : d.contextOf id = g.context := by
    rw [contextOf, here]
    rfl
  rw [afterProbe_ok]
  refine ⟨claims, ?_⟩
  rw [← context] at decides
  exact decides

theorem decides_repair {entryId : String} {d' : Desk Memory} {result : Except RegistryError Bool}
    (updated : d.mutate (·.update entryId (renewal input i) d.now) = (result, d'))
    (updates : T.writes heard d d') (decides : Decides T post id kind
      (Part.updated draft entryId result) heard d') :
    Decides T post id kind (Part.repair input i draft entryId) heard d := by
  have written : (d.mutate (·.update entryId (renewal input i) d.now)).2 = d' := by rw [updated]
  have answered : (d.mutate (·.update entryId (renewal input i) d.now)).1 = result := by
    rw [updated]
  refine ⟨written ▸ updates, ?_⟩
  change Decides T post id kind (Part.updated draft entryId
    (d.mutate (·.update entryId (renewal input i) d.now)).1) heard
    (d.mutate (·.update entryId (renewal input i) d.now)).2
  rw [written, answered]
  exact decides

theorem decides_reload {entryId : String}
    (reloads : (Work.host (Registry.Action.reload entryId) : Work Memory device _).Ensures T
      (andThen T (fun r => (Action.settle id kind (repaired r, (.inl draft : Memory))).run) post)
      heard d) :
    Decides T post id kind (Part.updated draft entryId (.ok true)) heard d :=
  ensures_bind.mpr reloads

end Onboarding.Camera
