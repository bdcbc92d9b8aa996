import Onboarding.Proofs.Camera.Devices
import Onboarding.Proofs.Registry.Trying

/-! The one outcome of an attempt. Whatever the device does, a submitted form is answered: the form
comes back with one error, or the device becomes an entry, or it is one already, which ends the flow
or is repaired by it. Nothing else changes in the registry. -/
namespace Onboarding.Camera

open Desk Job

/-- The entry is of the device that has been identified. -/
def Identified.Owns (i : Identified) (e : Entry) : Prop := e.identity? = some ⟨domain, i.uniqueId⟩

/-- The error that is shown for a fault: the field and its code. -/
def Fault.error : Fault → String × String
  | userNotAdmin _ _ => (Key.username, "not_admin")
  | credentialsInvalid => (Key.host, "invalid_auth")
  | api _ => (Key.host, "api_error")
  | connection _ | setup _ => (Key.host, "cannot_connect")
  | unexpected _ => (Key.host, "unknown")

/-- What is filled in where the error of a fault is worded. The message is empty where there is
none. -/
def Fault.wording : Fault → List (String × String)
  | userNotAdmin username userLevel =>
    [("error", ""), ("userlevel", userLevel), ("username", username)]
  | credentialsInvalid => [("error", "")]
  | api message | connection message | setup message | unexpected message => [("error", message)]

/-- The user form with the one error of a fault. -/
structure Fault.Shown (f : Fault) (p : Page) : Prop where
  step : p.step = StepName.user
  errors : p.errors.toList = [f.error]
  placeholders : p.placeholders.toList = f.wording

theorem apply_renewal (e : Entry) (input : Data) (i : Identified) (now : Instant) :
    e.apply (renewal input i) now =
      if e.data.same (completed input i) then (e, false)
      else ({ e with data := completed input i, modifiedAt := now }, true) := by
  cases same : e.data.same (completed input i) <;>
    simp [Entry.apply, Entry.Update.changes, Entry.Update.replaced, renewal, same]

theorem Fault.shown (f : Fault) (schema : Schema) : f.Shown {
    step := StepName.user
    schema
    errors := (Complaint.ofFault f).errors
    placeholders := (Complaint.ofFault f).placeholders } where
  step := rfl
  errors := by cases f <;> rfl
  placeholders := by cases f <;> rfl

/-- What becomes of an attempt of a flow, by what the handshake has told and by the desk at which
the device was logged out. An entry that is set up may have had to wait for that; all other entries
are as they were by then. -/
inductive Concludes (input : Data) (h : Handshake) (c : Context) (d : Desk Memory)
    (turned : Registry) : FlowResult.Body → Registry → Prop where
  /-- The form comes back. -/
  | refused {f : Fault} {p : Page} (fails : h.outcome = .error f) (shown : f.Shown p) :
    Concludes input h c d turned (.form p) d.registry
  /-- The device had no entry, and has one now. -/
  | added {i : Identified} {e e' : Entry} {r : Registry} (identifies : h.outcome = .ok i)
    (new : ∀ (id : String) (e : Entry), d.registry.get? id = some e → ¬ i.Owns e)
    (made : e = Action.candidate d { c with uniqueId := some i.uniqueId } i.name
      (completed input i) defaultOptions)
    (owns : i.Owns e) (fresh : d.registry.get? e.id = none) (tried : e.Tried e')
    (only : turned.Only e.id e' r.toCatalog) :
    Concludes input h c d turned
      (.created i.name (completed input i) defaultOptions c.version (some e.id)) r
  /-- The device has an entry, which the flow is not to repair. -/
  | known {i : Identified} {id : String} {e : Entry} (identifies : h.outcome = .ok i)
    (held : d.registry.get? id = some e) (owns : i.Owns e) (first : c.source ≠ .reauth) :
    Concludes input h c d turned (.aborted alreadyConfigured) d.registry
  /-- The entry is to be repaired, and has the right data already. -/
  | confirmed {i : Identified} {id : String} {e : Entry} (identifies : h.outcome = .ok i)
    (held : d.registry.get? id = some e) (owns : i.Owns e) (again : c.source = .reauth)
    (same : e.data.same (completed input i) = true) :
    Concludes input h c d turned (.aborted reauthSuccessful) d.registry
  /-- The entry is given other data, and set up again. -/
  | repaired {i : Identified} {id : String} {e e' : Entry} {r : Registry}
    (identifies : h.outcome = .ok i) (held : d.registry.get? id = some e) (owns : i.Owns e)
    (again : c.source = .reauth) (other : e.data.same (completed input i) = false)
    (tried : { e with data := completed input i, modifiedAt := d.now }.Tried e')
    (only : turned.Only id e' r.toCatalog) :
    Concludes input h c d turned (.aborted reauthSuccessful) r

/-- A registry whose look-ups are complete and whose storage works, at a desk that gives out new
ids; and if a handshake has identified a device, nothing is under way for an entry of it. -/
structure Receptive (h : Handshake) (d : Desk Memory) : Prop where
  orderly : d.Orderly
  indexed : d.registry.Indexed
  found : d.registry.Found
  writable : d.registry.disk.writable = true
  settled : ∀ (i : Identified) (id : String) (e : Entry), h.outcome = .ok i →
    d.registry.get? id = some e → i.Owns e → e.phase.settled = true

/-- An attempt that is told of a handshake. Anything may be done at the desk until the device has
been logged out; from there on nothing is done to an entry of the device while the attempt waits for
its turn, and an integration that is asked to set it up answers and leaves the registry alone. -/
def attempting (h : Handshake) : Terms (Desk Memory) (.desk device) where
  finds
    | .device (.client _), _, d, t => Later d t
    | .device (.handshake _), r, d, t => r = h ∧ Later d t
    | .device (.logout _), _, d, t => Later d t ∧ Receptive h t
    | .hosting q, r, d, t =>
      (Registry.undisturbed fun e => ∃ i, h.outcome = .ok i ∧ i.Owns e).finds q r d.registry
        t.registry
    | .awaitFlow _, _, _, _ => True
  writes _ _ _ := True

/-- After what an attempt has heard by its logout, it is answered, and it concludes. -/
def concluding (input : Data) (h : Handshake) (c : Context) (d : Desk Memory)
    (met : List (Heard (Desk Memory) (.desk device))) :
    Post (Desk Memory) (.desk device) (Except FlowError FlowResult) := fun heard ended t =>
  ∃ later r, heard = met ++ later ∧ ended = .ok (.ok r) ∧
    Concludes input h c d (Registry.turnedAt d.registry (later.filterMap hosted)) r.body t.registry

/-- The attempt hears of its device, and concludes by the desk at which it was logged out. -/
def concludes (input : Data) (h : Handshake) (c : Context) :
    Post (Desk Memory) (.desk device) (Except FlowError FlowResult) := fun heard ended t =>
  ∃ client l d₁ d₂ d₃,
    concluding input h c d₃ (exchanged input client h l d₁ d₂ d₃) heard ended t

/-- A flow waits at its user form. -/
structure Waits (d : Desk Memory) (id : String) (f : Flow Memory) : Prop where
  listed : id ∈ d.listed
  here : d.flows[id]? = some f
  kind : f.kind = .config
  step : f.step = StepName.user
  idle : f.busy = false
  unfinished : f.finished = false

section Rules

variable {input : Data} {h : Handshake} {c : Context} {d : Desk Memory} {i : Identified}
  {met : List (Heard (Desk Memory) (.desk device))} {id : String} {f : Flow Memory} {draft : Draft}

theorem Fits.suits (fits : Fits f) (kind : f.kind = .config) (step : f.step = StepName.user) :
    ∃ draft, f.memory = .inl draft ∧ Suits draft f := by
  cases fits with
  | @onboarding draft kind memory handler first reauth =>
    have other : f.step ≠ StepName.reauth := by
      rw [step]
      decide
    exact ⟨draft, memory, kind, handler, reauth other⟩
  | options other => cases kind.symm.trans other

theorem closes_concludes (id : String) :
    Action.Closes (attempting h) (concludes input h c) id where
  frees ended := ⟨trivial, ended⟩
  delists := by rintro heard e t ⟨_, _, _, _, _, _, _, _, ⟨⟩, _⟩

theorem concluding_end {r : FlowResult} {t : Desk Memory}
    (ends : Concludes input h c d d.registry r.body t.registry) :
    concluding input h c d met met (.ok (.ok r)) t :=
  ⟨[], r, (List.append_nil met).symm, rfl, ends⟩

theorem concluding_abort {kind : FlowKind} {reason : String} {memory : Memory} {t : Desk Memory}
    (ends : Concludes input h c d d.registry (.aborted reason) t.registry) :
    (Action.settle id kind (.ok (.abort reason), memory)).run.Ensures (attempting h)
      (concluding input h c d met) met t :=
  ⟨trivial, trivial, concluding_end ends⟩

/-- What an action of the registry comes to that has an entry of the device to itself. -/
theorem concluding_host {a : Registry.Action Unit} {e : Entry} {t : Desk Memory}
    (clear : met.filterMap hosted = [])
    (tries : a.run.Ensures (Registry.undisturbed fun e => ∃ i, h.outcome = .ok i ∧ i.Owns e)
      (Registry.tries t.registry id e) [] t.registry) :
    (Work.host a : Work Memory device _).Ensures (attempting h) (fun heard ended u =>
      ∃ later, heard = met ++ later ∧
        Registry.tries t.registry id e (later.filterMap hosted) ended u.registry) met t := by
  have hosted : (Work.host a : Work Memory device _).Ensures (attempting h) (fun heard ended u =>
      Registry.tries t.registry id e (heard.filterMap hosted) ended u.registry) met t :=
    Work.ensures_host (fun _ _ _ _ found => found) (fun _ _ _ => trivial) (clear ▸ tries)
  refine ensures_imp (fun heard ended u => ?_) (ensures_grown hosted)
  rintro ⟨⟨later, rfl⟩, tried⟩
  rw [List.filterMap_append, clear, List.nil_append] at tried
  exact ⟨later, rfl, tried⟩

/-- A device of which there is no entry becomes one. -/
theorem concluding_create (receptive : Receptive h d) (identifies : h.outcome = .ok i)
    (new : ∀ (id : String) (e : Entry), d.registry.get? id = some e → ¬ i.Owns e)
    (clear : met.filterMap hosted = []) (handler : c.handler = domain)
    (context : (claimed d id i.uniqueId).contextOf id = { c with uniqueId := some i.uniqueId })
    {memory : Memory} :
    (Action.settle id .config
      (.ok (.create i.name (completed input i) defaultOptions), memory)).run.Ensures (attempting h)
      (concluding input h c d met) met (claimed d id i.uniqueId) := by
  let e := Action.candidate d { c with uniqueId := some i.uniqueId } i.name (completed input i)
    defaultOptions
  have owns : i.Owns e := by
    change some (Identity.mk c.handler i.uniqueId) = _
    rw [handler]
  have free : ∀ j, e.identity? = some j → j ∉ d.registry.byUniqueId := by
    intro j has
    cases has.symm.trans owns
    exact receptive.indexed.free new
  have fresh : d.registry.get? e.id = none := receptive.orderly.reserved d.issued (Nat.le_refl _)
  let t := ((claimed d id i.uniqueId).modifyFlow id ({ · with memory })).close id
  let r := d.registry.written (d.registry.restore e)
  have added : t.issue.2.mutate (·.add e) = (.ok e, { t.issue.2 with registry := r }) := by
    change ((d.registry.add e).2, { t.issue.2 with registry := (d.registry.add e).1 }) = _
    rw [Registry.add_free _ free, d.registry.saved_written receptive.writable]
  have held : r.get? e.id = some e.persisted := by
    change (d.registry.restore e).get? e.id = some e
    simp
  refine Action.ensures_settle_create trivial trivial ?_
  rw [context]
  refine Action.ensures_registerEntry added trivial trivial (by rintro j ⟨⟩) (by rintro error ⟨⟩) ?_
  rintro e ⟨⟩
  refine ensures_imp ?_ (concluding_host (t := { t.issue.2 with registry := r }) clear
    (Registry.Action.tries_setUp held ⟨i, identifies, owns⟩ rfl))
  rintro heard ended u ⟨later, rfl, ends, e', tried, only⟩
  have only := Registry.only_turnedAt d.registry (fun other apart => by
    change (d.registry.restore _).get? other = _
    rw [Catalog.get?_restore, if_neg apart]) only
  have concluded : Concludes input h c d _ (.created i.name (completed input i) defaultOptions
      c.version (some e.id)) u.registry := .added identifies new rfl owns fresh tried only
  rcases ends with rfl | ⟨reason, rfl⟩ <;> exact ⟨later, _, rfl, rfl, concluded⟩

/-- A device is repaired that has an entry. -/
theorem concluding_repair (receptive : Receptive h d) (identifies : h.outcome = .ok i) {e : Entry}
    (held : d.registry.get? e.id = some e) (owns : i.Owns e) (again : c.source = .reauth)
    (clear : met.filterMap hosted = []) :
    Decides (attempting h) (concluding input h c d met) id .config (Part.repair input i draft e.id)
      met (claimed d id i.uniqueId) := by
  let t := claimed d id i.uniqueId
  have applied := apply_renewal e input i d.now
  cases same : e.data.same (completed input i) with
  | true =>
    rw [if_pos same] at applied
    have updated : t.mutate (·.update e.id (renewal input i) t.now) = (.ok false, t) := by
      change ((d.registry.update e.id _ d.now).2,
        { t with registry := (d.registry.update e.id _ d.now).1 }) = _
      rw [Registry.update_unchanged _ held applied]
      rfl
    exact decides_repair updated trivial
      (concluding_abort (.confirmed identifies held owns again same))
  | false =>
    rw [if_neg (by rw [same]; decide)] at applied
    let new := { e with data := completed input i, modifiedAt := d.now }
    let r := d.registry.written (d.registry.amend e.id e new)
    have updated : t.mutate (·.update e.id (renewal input i) t.now) =
        (.ok true, { t with registry := r }) := by
      change ((d.registry.update e.id _ d.now).2,
        { t with registry := (d.registry.update e.id _ d.now).1 }) = _
      rw [Registry.update_changed _ held applied, d.registry.saved_written receptive.writable]
    have there : r.get? new.id = some new := by
      change (d.registry.amend e.id e new).get? new.id = some new
      simp
    have settled : new.phase.settled = true := receptive.settled i e.id e identifies held owns
    refine decides_repair updated trivial (decides_reload (ensures_imp ?_
      (concluding_host (t := { t with registry := r }) clear
        (Registry.Action.tries_reload there ⟨i, identifies, owns⟩ rfl settled))))
    rintro heard ended u ⟨later, rfl, ends, e', tried, only⟩
    have only := Registry.only_turnedAt d.registry (fun other apart => by
      change (d.registry.amend e.id e new).get? other = _
      rw [Catalog.get?_amend, if_neg apart]) only
    have concluded : Concludes input h c d _ (.aborted reauthSuccessful) u.registry :=
      .repaired identifies held owns again same tried only
    rcases ends with rfl | ⟨reason, rfl⟩ <;>
      exact ⟨trivial, trivial, later, _, rfl, rfl, concluded⟩

/-- What becomes of a device that has been identified. -/
theorem concluding_identified (receptive : Receptive h d) (identifies : h.outcome = .ok i)
    {g : Flow Memory} (there : d.flows[id]? = some g) (same : f.Same g) (suits : Suits draft f)
    (clear : met.filterMap hosted = []) :
    Decides (attempting h) (concluding input h f.context d met) id .config
      (afterProbe input (.ok i) draft) met d := by
  have handler := (suits.same same).handler
  refine decides_claim there trivial ?_
  rw [handler]
  cases known : d.registry.holder? ⟨domain, i.uniqueId⟩ with
  | none =>
    have new (other : String) (e : Entry) (held : d.registry.get? other = some e) : ¬ i.Owns e := by
      intro owns
      obtain rfl := receptive.indexed.filed other e held
      cases known.symm.trans (receptive.found.holder? held owns)
    rw [Part.claimed_onboard input i (.inl rfl)]
    refine decides_onboard there ?_
    rw [handler, known]
    refine concluding_create receptive identifies new clear suits.handler ?_
    rw [contextOf_claimed there, same.context]
  | some e =>
    obtain ⟨held, owns⟩ := receptive.indexed.holder?_sound known
    cases reauth : draft.reauth with
    | false =>
      have first : f.context.source ≠ .reauth := by
        intro again
        cases reauth.symm.trans (suits.reauth.mpr again)
      rw [Part.claimed_onboard input i (.inr reauth)]
      refine decides_onboard there ?_
      rw [handler, known]
      exact concluding_abort (.known identifies held owns first)
    | true =>
      rw [Part.claimed_repair input i e reauth]
      exact concluding_repair receptive identifies held owns (suits.reauth.mp reauth) clear

/-- An attempt concludes, whatever the device does. -/
theorem concludes_attempt (here : d.flows[id]? = some f) (memory : f.memory = .inl draft)
    (suits : Suits draft f) (input : Data) (h : Handshake) :
    (Action.takeStep steps id StepName.user (some input)).run.Ensures (attempting h)
      (concludes input h f.context) [] d := by
  refine ensures_attempt here memory fun client d₁ found₁ h' d₂ found₂ l d₃ found₃ => ?_
  obtain ⟨rfl, found₂⟩ := found₂
  obtain ⟨found₃, receptive⟩ := found₃
  obtain ⟨g, there, same⟩ := (found₁.trans (found₂.trans found₃)).flows id f here
  let met := exchanged input client h' l d₁ d₂ d₃
  have concludes : Decides (attempting h') (concluding input h' f.context d₃ met) id .config
      (afterProbe input h'.outcome draft) met d₃ := by
    cases outcome : h'.outcome with
    | ok i => exact concluding_identified receptive outcome there same suits rfl
    | error fault =>
      exact decides_fault ⟨trivial, trivial, concluding_end (.refused outcome (fault.shown _))⟩
  rw [suits.kind]
  exact concludes.imp fun heard ended t ends => ⟨client, l, d₁, d₂, d₃, ends⟩

end Rules

/-- On every run on which only cameras are onboarded, a flow that waits at its user form at any
moment is answered when a valid input is submitted, in exactly one of the ways there are by what the
handshake tells and what is registered as the device is logged out. -/
theorem one_outcome (handled : Std.ExtTreeSet String) (now : Instant)
    (events : List (Event Memory device)) (cameras : ∀ (handler : String) (i : Integration Memory),
      Event.integrate handler i ∈ events → handler = domain ∧ i = integration) :
    ∀ d ∈ ((Record.opened handled now).after steps events).seen,
      ∀ id f input clean h, Waits d id f → f.schema.validate input = .ok clean →
        (Action.submit steps id input).run.Ensures (attempting h)
          (concludes clean h f.context) [] d := by
  intro d seen id f input clean h waits valid
  let A (_ : Desk Memory) (event : Event Memory device) : Prop := event ∈ events
  have trivially : Welcomes (fun _ => True) fun _ => True := by constructor <;> intros <;> trivial
  have serves : Serves steps (attended (fun _ => True) fun _ => True) A :=
    serves_attended trivially (fun _ _ => trivial) (fun allowed => cameras _ _ allowed)
      fun _ _ _ _ _ _ => trivial
  have honours := serves.after
    (Chronicle.honours_start ⟨furnished_opened handled now, trivial⟩)
    (Record.throughout (fun event member _ => member) (Record.opened handled now))
  have fits := (honours.moments d seen).1.flows id f waits.here
  obtain ⟨draft, memory, suits⟩ := fits.suits waits.kind waits.step
  refine Action.ensures_submit (closes_concludes id) waits.listed fun heard t reached =>
    ⟨trivial, ?_⟩
  obtain ⟨rfl, rfl⟩ : heard = [] ∧ t = d := by
    rcases reached with ⟨_, rfl, rfl⟩ | ⟨busy, _⟩
    · exact ⟨rfl, rfl⟩
    · rw [waits.here, Option.any_some, waits.idle] at busy
      cases busy
  have here : (t.modifyFlow id ({ · with busy := true })).flows[id]? =
      some { f with busy := true } := by
    rw [flow_modifyFlow_self, waits.here]
    rfl
  refine Action.ensures_answering (fun none _ => ?_) fun g clean' answerable => ?_
  · exact absurd ⟨here, waits.unfinished, valid⟩ (none _ clean)
  · cases here.symm.trans answerable.1
    cases valid.symm.trans answerable.2.2
    have attempt := concludes_attempt here memory (suits.same ⟨rfl, rfl⟩) clean h
    rw [← waits.step] at attempt
    exact attempt

/-- A camera is onboarded, and then a flow is started to repair its entry. -/
def returning : List (Event Memory device) :=
  shown ++ [.call (.submit (Issue.id 0) credentials), .reply 0 welcome, .reply 0 welcome,
    .reply 0 welcome, .call (.startReauth (Issue.id 1)), .call (.submit (Issue.id 2) ∅)]

def returned : Desk Memory := ((Record.opened ∅ .epoch).after steps returning).state

/-- The flow as it waits with the credentials of the entry. -/
def repairing : Flow Memory where
  kind := .config
  memory := .inl ⟨some "h", "u", some "p", true⟩
  context := ⟨Issue.id 2, domain, .reauth, 1, none, some (Issue.id 1)⟩
  step := StepName.user
  schema := (⟨some "h", "u", some "p", true⟩ : Draft).schema false

theorem receptive_returned (h : Handshake) : Receptive h returned := by
  have cameras : ∀ event ∈ returning, OfCameras event := by simp [returning, shown, OfCameras]
  have catalogued := (honours_cameras ∅ .epoch cameras).state.2
  have settled : returned.registry.toList.all (·.phase.settled) = true := by decide +kernel
  exact ⟨catalogued.orderly, catalogued.indexed, catalogued.found, by decide +kernel,
    fun _ id e _ held _ => List.all_eq_true.mp settled e (Catalog.mem_toList.mpr ⟨id, held⟩)⟩

/-- The flow is answered when its form is submitted as it is, to a camera that lets anyone in. -/
theorem returned_concludes :
    Waits returned (Issue.id 2) repairing ∧ repairing.schema.validate ∅ = .ok credentials ∧
    Receptive ⟨openCamera, .succeeded⟩ returned ∧ returned.registry.size = 1 ∧
    (Action.submit steps (Issue.id 2) ∅).run.Ensures (attempting ⟨openCamera, .succeeded⟩)
      (concludes credentials ⟨openCamera, .succeeded⟩ repairing.context) [] returned := by
  have waits : Waits returned (Issue.id 2) repairing := ⟨by decide +kernel, rfl, rfl, rfl, rfl, rfl⟩
  have valid : repairing.schema.validate ∅ = .ok credentials := rfl
  have cameras (handler : String) (i : Integration Memory)
      (member : Event.integrate handler i ∈ returning) : handler = domain ∧ i = integration := by
    simpa [returning, shown] using member
  exact ⟨waits, valid, receptive_returned _, by decide +kernel,
    one_outcome ∅ .epoch returning cameras returned (List.mem_cons_self ..) (Issue.id 2) repairing ∅
      credentials ⟨openCamera, .succeeded⟩ waits valid⟩

end Onboarding.Camera
