import Onboarding.Proofs.Camera.Attended
import Onboarding.Proofs.Camera.Forms
import Onboarding.Proofs.Camera.Login
import Onboarding.Proofs.Camera.Visits

/-! From the form to the entry and back. A client is made for what the user form has accepted, and
once it has been logged out the entry of its device is given that, with the port and the transport
that the device has reported. A call gives no other data to any entry. -/
namespace Onboarding.Camera

open Desk Job

/-- A submit that is made at a desk finds its flow at the user form in its turn, and the form
accepts the input as a login. -/
structure Accepted (d turn : Desk Memory) (id : String) (input : Data) (l : Login) : Prop where
  listed : id ∈ d.listed
  answerable : ∃ f, Action.Answerable turn id input f l.data ∧ f.step = StepName.user
  port : l.port ≠ some 0

/-- A submit has logged in to a device and out again, and knows it by then. -/
structure LoggedIn (d : Desk Memory) (id : String) (input : Data)
    (heard : List (Heard (Desk Memory) (.desk device))) (l : Login) (i : Identified)
    (left : Desk Memory) : Prop where
  accepted : Accepted d (turnAt d heard) id input l
  recognised : ∃ h, Recognised heard h i left

/-- Every entry has the data that it had, or that of the device that a submit has logged in to. -/
def Furnishes (d : Desk Memory) (id : String) (input : Data)
    (heard : List (Heard (Desk Memory) (.desk device))) (r s : Registry) : Prop :=
  ∀ entryId e, s.get? entryId = some e →
    (∃ old, r.get? entryId = some old ∧ e.data = old.data) ∨
      ∃ l i left, LoggedIn d id input heard l i left ∧ l.Stored i e.data

/-- What a submit may return: that an entry was made, or was given new data, is so at the desk at
which the device was logged out. -/
inductive Returns (d : Desk Memory) (id : String) (input : Data)
    (heard : List (Heard (Desk Memory) (.desk device))) : FlowResult.Body → Prop where
  | form (p : Page) : Returns d id input heard (.form p)
  | created {l : Login} {i : Identified} {left : Desk Memory} {r : Registry} {e : Entry}
    {title : String} {version : UInt32} (loggedIn : LoggedIn d id input heard l i left)
    (added : left.registry.add e = (r, .ok e)) (held : r.get? e.id = some e)
    (stored : l.Stored i e.data) :
    Returns d id input heard (.created title e.data defaultOptions version (some e.id))
  | updated {l : Login} {i : Identified} {left : Desk Memory} {r : Registry} {entryId : String}
    {e : Entry} {changed : Bool} (loggedIn : LoggedIn d id input heard l i left)
    (updated : left.registry.update entryId { data := some e.data } left.now = (r, .ok changed))
    (held : r.get? entryId = some e) (stored : l.Stored i e.data) :
    Returns d id input heard (.aborted reauthSuccessful)
  | aborted {reason : String} (other : reason ≠ reauthSuccessful) :
    Returns d id input heard (.aborted reason)

section Rules

variable {d s t left : Desk Memory} {id : String} {input : Data} {l : Login} {i : Identified}
  {f : Flow Memory} {draft : Draft} {heard : List (Heard (Desk Memory) (.desk device))}

theorem LoggedIn.hosting (loggedIn : LoggedIn d id input heard l i left) (q : Hosting)
    (r : q.Reply) (t : Desk Memory) :
    LoggedIn d id input (heard ++ [⟨.hosting q, r, t⟩]) l i left := by
  obtain ⟨accepted, h, recognised⟩ := loggedIn
  refine ⟨?_, h, recognised.grow (List.prefix_append _ _)⟩
  rw [turnAt_append (by rintro id ⟨⟩)]
  exact accepted

/-- What a submit owes with what it writes, while all flows go on as they may. -/
def furnishing (d : Desk Memory) (id : String) (input : Data) :
    Terms (Desk Memory) (.desk device) where
  finds _ _ s t := t.InPlace ∧ Advanced conduct s t
  writes heard s t := Furnishes d id input heard s.registry t.registry

def returns (d : Desk Memory) (id : String) (input : Data) :
    Post (Desk Memory) (.desk device) (Except FlowError FlowResult) := fun heard ended _ =>
  ∀ answer, ended = .ok (.ok answer) → Returns d id input heard answer.body

theorem furnishes_same (r : Registry) : Furnishes d id input heard r r :=
  fun _ e held => .inl ⟨e, held, rfl⟩

theorem furnishes_add {r : Registry} {e : Entry} (filed : r.Filed)
    (loggedIn : LoggedIn d id input heard l i left) (stored : l.Stored i e.data) :
    Furnishes d id input heard r (r.add e).1 := by
  intro entryId e' held
  rcases Registry.mutate_origin filed (.add e) held with ⟨⟨⟩⟩ | ⟨old, before, rfl | ⟨_, _, ⟨⟩, _⟩⟩
  · exact .inr ⟨l, i, left, loggedIn, stored⟩
  · exact .inl ⟨e', before, rfl⟩

theorem furnishes_renewal {r : Registry} {entryId : String} {now : Instant} (filed : r.Filed)
    (loggedIn : LoggedIn d id input heard l i left) :
    Furnishes d id input heard r (r.update entryId (renewal l.data i) now).1 := by
  intro other e held
  rw [Registry.get?_update filed] at held
  split at held
  · obtain ⟨old, before, rfl⟩ := Option.map_eq_some_iff.mp held
    have same : (old.apply (renewal l.data i) now).1.data = completed l.data i :=
      (l.plain_completed i).eq_of_same (old.same_data_apply now rfl)
    rw [same]
    exact .inr ⟨l, i, left, loggedIn, l.stored i⟩
  · exact .inl ⟨e, held, rfl⟩

theorem closes_returns : Action.Closes (furnishing d id input) (returns d id input) id where
  frees ended := ⟨furnishes_same _, ended⟩
  delists _ := ⟨furnishes_same _, by rintro answer ⟨⟩⟩

/-- While the registry is at work the device stays known. -/
theorem furnishes_host {α : Type} {a : Registry.Action α} (cycles : a.Cycles)
    (filed : s.registry.Filed) (loggedIn : LoggedIn d id input heard l i left) :
    (Work.host a : Work Memory device (Except RegistryError α)).Ensures (furnishing d id input)
      (fun heard _ _ => LoggedIn d id input heard l i left) heard s := by
  refine ensures_imp (fun heard ended t known => known.2) (ensures_iff_obeys.mpr
    (Work.obeys_host (I := fun heard t => t.registry.Filed ∧ LoggedIn d id input heard l i left)
      cycles (fun heard t r known moved => ?_) (fun _ _ _ _ => trivial)
      (fun heard q r s t known found => ?_) ⟨filed, loggedIn⟩))
  · refine ⟨fun entryId e held => .inl ?_, Registry.filed_lifecycle known.1 moved, known.2⟩
    exact Registry.data_lifecycle known.1 moved held
  · exact ⟨found.1.filed, known.2.hosting q r t⟩

theorem returns_aborted {memory : Memory} {reason : String}
    (ends : Returns d id input heard (.aborted reason)) :
    (Action.settle id .config (.ok (.abort reason), memory)).run.Ensures (furnishing d id input)
      (returns d id input) heard s := by
  refine ⟨furnishes_same _, furnishes_same _, ?_⟩
  rintro answer ⟨⟩
  exact ends

theorem returns_failed {memory : Memory} {e : RegistryError} :
    (Action.settle id .config (.error (.registry e), memory)).run.Ensures (furnishing d id input)
      (returns d id input) heard s := by
  refine ⟨furnishes_same _, ?_⟩
  rintro answer ⟨⟩

/-- A device that is new gets an entry with the data that it has been logged in to with. -/
theorem returns_created (loggedIn : LoggedIn d id input heard l i left)
    (filed : left.registry.Filed) (registry : s.registry = left.registry) {memory : Memory} :
    (Action.settle id .config (.ok (.create i.name (completed l.data i) defaultOptions), memory)
      ).run.Ensures (furnishing d id input) (returns d id input) heard s := by
  let t := (s.modifyFlow id ({ · with memory })).close id
  let e := Action.candidate t (s.contextOf id) i.name (completed l.data i) defaultOptions
  let made := t.issue.2.mutate (·.add e)
  have same : made.2.registry = (left.registry.add e).1 := by
    rw [← registry]
    rfl
  have filed' := Registry.filed_change filed (.mutate (.add e))
  refine Action.ensures_settle_create (furnishes_same _) (furnishes_same _) ?_
  have makes : t.issue.2.mutate (·.add e) = (made.1, made.2) := rfl
  refine Action.ensures_registerEntry makes (furnishes_same _) ?_ ?_ ?_ ?_
  · change Furnishes d id input heard s.registry _
    rw [same, registry]
    exact furnishes_add filed loggedIn (l.stored i)
  · rintro _ _ answer ⟨⟩
    exact .aborted (by decide)
  · rintro _ _ _ answer ⟨⟩
  · intro e' added
    change (s.registry.add e).2 = .ok e' at added
    rw [registry] at added
    obtain ⟨rfl, held⟩ := Registry.add_ok added
    refine ensures_imp (fun heard ended u loggedIn => ?_)
      (furnishes_host (Registry.Action.cycles_setUp e.id) (same ▸ filed') loggedIn)
    cases ended with
    | error x => rintro answer ⟨⟩
    | ok _ =>
      rintro answer ⟨⟩
      exact .created (e := e) loggedIn (Prod.ext rfl added) held (l.stored i)

/-- A device that has an entry gives it the data that it has been logged in to with. -/
theorem returns_repaired (loggedIn : LoggedIn d id input heard l i left)
    (filed : left.registry.Filed) (registry : s.registry = left.registry) (now : s.now = left.now)
    (entryId : String) :
    Decides (furnishing d id input) (returns d id input) id .config
      (Part.repair l.data i draft entryId) heard s := by
  let r := left.registry.update entryId (renewal l.data i) left.now
  have same : s.mutate (·.update entryId (renewal l.data i) s.now) =
      (r.2, { s with registry := r.1 }) := by
    change ((s.registry.update entryId _ s.now).2,
      { s with registry := (s.registry.update entryId _ s.now).1 }) = _
    rw [registry, now]
  have filed' : r.1.Filed := Registry.filed_change filed (.mutate (.update entryId _ left.now))
  refine decides_repair same ?_ ?_
  · change Furnishes d id input heard s.registry r.1
    rw [registry]
    exact furnishes_renewal filed loggedIn
  have updated {changed : Bool} (ends : r.2 = .ok changed)
      {heard : List (Heard (Desk Memory) (.desk device))}
      (loggedIn : LoggedIn d id input heard l i left) :
      Returns d id input heard (.aborted reauthSuccessful) := by
    obtain ⟨e, held, data⟩ := Registry.data_update filed (l.plain_completed i) rfl ends
    have updates : left.registry.update entryId { data := some e.data } left.now =
        (r.1, .ok changed) := by
      rw [data]
      exact Prod.ext rfl ends
    exact .updated loggedIn updates held (data ▸ l.stored i)
  cases ended : r.2 with
  | error e => exact returns_failed
  | ok changed =>
    cases changed with
    | false => exact returns_aborted (updated ended loggedIn)
    | true =>
      refine decides_reload (ensures_imp (fun heard reloaded t loggedIn => ?_)
        (furnishes_host (Registry.Action.cycles_reload entryId) filed' loggedIn))
      cases reloaded with
      | error x => rintro answer ⟨⟩
      | ok reloaded =>
        change (Action.settle id .config (repaired reloaded, _)).run.Ensures _ _ _ _
        rcases repaired_cases reloaded with success | ⟨e, fails⟩
        · rw [success]
          exact returns_aborted (updated ended loggedIn)
        · rw [fails]
          exact returns_failed

/-- What becomes of a device that has been identified. -/
theorem returns_identified (loggedIn : LoggedIn d id input heard l i left)
    (filed : left.registry.Filed) (here : left.flows[id]? = some f) :
    Decides (furnishing d id input) (returns d id input) id .config
      (afterProbe l.data (.ok i) draft) heard left := by
  refine decides_claim here (furnishes_same _) ?_
  have onboards : Decides (furnishing d id input) (returns d id input) id .config
      (Part.onboard l.data i draft) heard (claimed left id i.uniqueId) := by
    refine decides_onboard here ?_
    cases left.registry.holder? ⟨f.context.handler, i.uniqueId⟩ with
    | none => exact returns_created (s := claimed left id i.uniqueId) loggedIn filed rfl
    | some e => exact returns_aborted (.aborted (by decide))
  cases left.registry.holder? ⟨f.context.handler, i.uniqueId⟩ with
  | none =>
    rw [Part.claimed_onboard l.data i (.inl rfl)]
    exact onboards
  | some e =>
    cases reauth : draft.reauth with
    | false =>
      rw [Part.claimed_onboard l.data i (.inr reauth)]
      exact onboards
    | true =>
      rw [Part.claimed_repair l.data i e reauth]
      exact returns_repaired (s := claimed left id i.uniqueId) loggedIn filed rfl rfl e.id

theorem returns_form (kind : FlowKind) {memory : Memory} {p : Page} :
    (Action.settle id kind (.ok (.form p), memory)).run.Ensures (furnishing d id input)
      (returns d id input) heard s := by
  refine ⟨furnishes_same _, furnishes_same _, ?_⟩
  rintro answer ⟨⟩
  exact .form p

/-- An attempt to log in returns what has been found out about the device. -/
theorem returns_attempt (accepted : Accepted d (turnAt d heard) id input l) (unmet : Unmet heard)
    (here : s.flows[id]? = some f) (kind : f.kind = .config) (memory : f.memory = .inl draft) :
    (Action.takeStep steps id StepName.user (some l.data)).run.Ensures (furnishing d id input)
      (returns d id input) heard s := by
  refine ensures_attempt here memory fun c d₁ found₁ h d₂ found₂ o d₃ found₃ => ?_
  have advanced := found₁.2.trans (found₂.2.trans found₃.2)
  obtain ⟨g, there, same, _⟩ := advanced.flows id f here
  rw [kind]
  cases outcome : h.outcome with
  | error fault => exact decides_fault (returns_form .config)
  | ok i =>
    have turn : turnAt d (heard ++ exchanged l.data c h o d₁ d₂ d₃) = turnAt d heard := by
      rw [exchanged, List.append_cons, List.append_cons, turnAt_append (by rintro id ⟨⟩),
        turnAt_append (by rintro id ⟨⟩), turnAt_append (by rintro id ⟨⟩)]
    refine returns_identified ⟨?_, h, told_exchanged unmet, outcome, leftAt_exchanged unmet⟩
      found₃.1.filed there
    rw [turn]
    exact accepted

/-- No other step than the user step decides on anything. -/
theorem steps_elsewhere {step : String} (other : step ≠ StepName.user) (input : Option Data)
    (draft : Draft) : ∃ r memory, steps step input (.inl draft) = .done (r, memory) ∧
      ((∃ p, r = .ok (.form p)) ∨ r = .error (.unknownStep step)) := by
  change ∃ r memory, (onboardingSteps step input draft).bind _ = _ ∧ _
  unfold onboardingSteps
  rw [if_neg other]
  split
  · exact ⟨_, _, rfl, .inl ⟨_, rfl⟩⟩
  split
  · cases input <;> exact ⟨_, _, rfl, .inl ⟨_, rfl⟩⟩
  · exact ⟨_, _, rfl, .inr rfl⟩

/-- In its turn a submit returns what comes of the form that it finds. -/
theorem returns_answering (listed : id ∈ d.listed) (turn : turnAt d heard = t) (unmet : Unmet heard)
    (presents : Presents t id f) (kind : f.kind = .config) (memory : f.memory = .inl draft) :
    (Action.answering steps id input).run.Ensures (furnishing d id input) (returns d id input)
      heard (t.modifyFlow id ({ · with busy := true })) := by
  have taken : (t.modifyFlow id ({ · with busy := true })).flows[id]? =
      some { f with busy := true } := by
    rw [flow_modifyFlow_self, presents.here]
    rfl
  refine ensures_iff_obeys.mpr (Action.obeys_answering_at taken ?_ ?_ ?_)
  · rintro _ answer ⟨⟩
  · rintro _ _ answer ⟨⟩
  · rintro clean ⟨_, unfinished, valid⟩
    change f.schema.validate input = .ok clean at valid
    refine ensures_iff_obeys.mp ?_
    change (Action.takeStep steps id f.step (some clean)).run.Ensures _ _ _ _
    by_cases user : f.step = StepName.user
    · have shows := presents.shows
      unfold Shows at shows
      rw [memory] at shows
      obtain ⟨filledIn, overrides, schema⟩ := shows user
      rw [schema] at valid
      obtain ⟨l, rfl, port⟩ := login_of_valid valid
      have accepted : Accepted d (turnAt d heard) id input l :=
        ⟨listed, ⟨f, turn ▸ ⟨presents.here, unfinished, schema ▸ valid⟩, user⟩, port⟩
      rw [user]
      exact returns_attempt accepted unmet taken kind memory
    · obtain ⟨r, memory', done, ends⟩ := steps_elsewhere user (some clean) draft
      rw [← memory] at done
      refine Action.ensures_takeStep_done taken done ?_
      rcases ends with ⟨p, rfl⟩ | rfl
      · exact returns_form f.kind
      · refine ⟨furnishes_same _, ?_⟩
        rintro answer ⟨⟩

theorem returns_submit (kept : d.InPlace) (presents : Presents d id f) (kind : f.kind = .config)
    (memory : f.memory = .inl draft) :
    (Action.submit steps id input).run.Ensures (furnishing d id input) (returns d id input) []
      d := by
  by_cases listed : id ∈ d.listed
  · refine Action.ensures_submit closes_returns listed fun heard t reached =>
      ⟨furnishes_same _, ?_⟩
    have found : turnAt d heard = t ∧ Unmet heard ∧ Advanced conduct d t := by
      rcases reached with ⟨_, rfl, rfl⟩ | ⟨_, found, rfl⟩
      · exact ⟨rfl, unmet_nil, .refl conduct t⟩
      · exact ⟨rfl, unmet_nil.await id t, found.2⟩
    obtain ⟨turn, unmet, advanced⟩ := found
    obtain ⟨g, presents, same, goes⟩ := presents.advance advanced
    obtain ⟨draft', memory⟩ := goes.draft draft memory
    exact returns_answering listed turn unmet presents (same.kind.trans kind) memory
  · exact Action.ensures_unlisted listed (by rintro answer ⟨⟩)

/-! The visit that is made with a login. -/

/-- What a form gives to log in with is a login that it has accepted. -/
theorem accepted_of_givenAt (listed : id ∈ d.listed) (presents : Presents t id f)
    (memory : f.memory = .inl draft) {data : Data} (owes : givenAt t id input = some data) :
    ∃ l : Login, data = l.data ∧ Accepted d t id input l := by
  have shows := presents.shows
  unfold Shows at shows
  rw [memory] at shows
  simp only [givenAt, presents.here] at owes
  split at owes
  · cases owes
  rename_i unfinished
  cases valid : f.schema.validate input with
  | error r =>
    rw [valid] at owes
    cases owes
  | ok clean =>
    rw [valid] at owes
    change given f.step (some clean) f.memory = some data at owes
    rw [memory] at owes
    by_cases user : f.step = StepName.user
    · rw [given, if_pos user] at owes
      cases owes
      obtain ⟨filledIn, overrides, schema⟩ := shows user
      rw [schema] at valid
      obtain ⟨l, rfl, port⟩ := login_of_valid valid
      have answerable : Action.Answerable t id input f l.data :=
        ⟨presents.here, eq_false_of_ne_true unfinished, schema ▸ valid⟩
      exact ⟨l, rfl, listed, ⟨f, answerable, user⟩, port⟩
    · rw [given, if_neg user] at owes
      cases owes

/-- What the user form accepts is what is given to log in with. -/
theorem givenAt_user (memory : f.memory = .inl draft) {g : Flow Memory} {clean : Data}
    (here : t.flows[id]? = some f) (answerable : Action.Answerable t id input g clean)
    (user : g.step = StepName.user) : givenAt t id input = some clean := by
  cases here.symm.trans answerable.1
  rw [givenAt_answerable answerable, memory, given, if_pos user]

/-- What a submit asks of devices, while all flows go on as they may: it begins with a client for
the login that it has been given. -/
def visits (d : Desk Memory) (id : String) (input : Data) :
    Protocol (Desk Memory) (.desk device) where
  finds _ _ s t := t.InPlace ∧ Advanced conduct s t
  writes _ _ _ := True
  waits heard q _ := ∀ k, q = .device (.client k) →
    ∃ l : Login, Accepted d (turnAt d heard) id input l ∧ k = l.connection defaultProtocol

/-- What the user form accepts is a login, and the first that is heard of devices is the client that
was made for it. -/
def Contacts (d : Desk Memory) (id : String) (input : Data)
    (heard : List (Heard (Desk Memory) (.desk device))) : Prop :=
  ∀ f clean, id ∈ d.listed → Action.Answerable (turnAt d heard) id input f clean →
    f.step = StepName.user → ∃ l : Login, clean = l.data ∧ l.port ≠ some 0 ∧ ∃ c t,
      (talk heard).head? = some ⟨.device (.client (l.connection defaultProtocol)), c, t⟩

theorem contacts_submit (kept : d.InPlace) (presents : Presents d id f)
    (memory : f.memory = .inl draft) (input : Data) :
    (Call.job steps (.submit id input)).Obeys (visits d id input)
      (fun heard _ _ => Contacts d id input heard) [] d := by
  have both := obeys_both (visits_call (.submit id input) d) (ensures_iff_obeys.mp
    (conducted_call (p := ⟨0, none⟩) kept_conduct (.submit id input) kept))
  have visitor {t : Desk Memory} (advanced : Advanced conduct d t) :
      ∃ g draft', Presents t id g ∧ g.memory = .inl draft' := by
    obtain ⟨g, presents, _, goes⟩ := presents.advance advanced
    obtain ⟨draft', memory⟩ := goes.draft draft memory
    exact ⟨g, draft', presents, memory⟩
  -- the desk of the turn has advanced from that of the call, as the present one has
  refine obeys_mono (fun heard s => Advanced conduct d s ∧ Advanced conduct d (turnAt d heard))
    (fun heard q r s t since waits found => ?_) (fun heard s t since written => ?_)
    (fun heard q s since waits => ?_) (fun heard e t since ends => ?_)
    ⟨.refl conduct d, .refl conduct d⟩ both
  · have advanced := since.1.trans found.2
    refine ⟨⟨trivial, trivial, found⟩, advanced, ?_⟩
    rcases waits.1 with ⟨_, rfl, rfl⟩ | ⟨other, _⟩
    · exact advanced
    · rw [turnAt_append other]
      exact since.2
  · exact ⟨trivial, since.1.trans written.2.1.2, since.2⟩
  · rintro k rfl
    rcases waits.1 with ⟨_, ⟨⟩, _⟩ | ⟨_, visit⟩
    change Visit (if id ∈ d.listed then _ else _) _ (some (.client k)) at visit
    generalize talk heard = words at visit
    split at visit
    · rename_i listed
      obtain ⟨g, draft', presents, memory⟩ := visitor since.2
      generalize owes : givenAt (turnAt d heard) id input = owed at visit
      cases visit
      obtain ⟨l, rfl, accepted⟩ := accepted_of_givenAt listed presents memory owes
      exact ⟨l, accepted, l.ofEntry_data defaultOptions⟩
    · cases visit
  · intro g clean listed answerable user
    obtain ⟨g', draft', presents, memory⟩ := visitor since.2
    have owes := givenAt_user memory presents.here answerable user
    obtain ⟨l, rfl, accepted⟩ := accepted_of_givenAt listed presents memory owes
    have visit := ends.1
    unfold called at visit
    rw [owedBy, if_pos listed, owes] at visit
    generalize spoken : talk heard = words at visit ⊢
    cases visit with
    | finished c h o d₁ d₂ d₃ =>
      refine ⟨l, rfl, accepted.port, c, d₁, ?_⟩
      rw [exchanged, List.head?_cons, l.ofEntry_data]
      rfl

end Rules

/-- What the record shows of a submit that is made at a desk to an onboarding flow. -/
structure RoundTrip (n : Nat) (id : String) (input : Data) (d : Desk Memory)
    (r : Record Memory device) : Prop where
  /-- No client is asked for but the one for the login. -/
  asks : ∀ w ∈ r.pending, w.party.number = n → ∀ k, w.request = .device (.client k) →
    ∃ l : Login, Accepted d (turnAt d w.heard) id input l ∧ k = l.connection defaultProtocol
  contacts : ∀ e ∈ r.ended, e.party.number = n → Contacts d id input e.heard
  /-- No entry is given other data than that of the device. -/
  writes : ∀ deed ∈ r.deeds, deed.party.number = n →
    Furnishes d id input deed.heard deed.before.registry deed.after.registry
  returns : ∀ e ∈ r.ended, e.party.number = n → ∀ answer, e.ending = .ok (.flow (.ok answer)) →
    Returns d id input e.heard answer.body

theorem round_trip_call {c : Record Memory device} (honours : c.Honours (conducted conduct))
    (counted : c.Counted) {id : String} {f : Flow Memory} {draft : Draft}
    (presents : Presents c.state id f) (kind : f.kind = .config) (memory : f.memory = .inl draft)
    (input : Data) (later : List (Event Memory device)) :
    RoundTrip c.begun id input c.state
      ((c.happen steps (.call (.submit id input))).after steps later) := by
  have answers : (Call.job steps (.submit id input)).Ensures (furnishing c.state id input)
      (fun heard ended _ => ∀ answer, ended = .ok (.flow (.ok answer)) →
        Returns c.state id input heard answer.body) [] c.state := by
    refine ensures_bind.mpr (ensures_imp (fun heard ended t ends => ?_)
      (returns_submit honours.state presents kind memory))
    cases ended with
    | error x => rintro answer ⟨⟩
    | ok result =>
      rintro answer ⟨⟩
      exact ends answer rfl
  have asked := kept_conduct.tracks honours counted
    (contacts_submit honours.state presents memory input)
    (fun q r s t kept advanced => ⟨kept, advanced⟩) later
  have answered := kept_conduct.tracks honours counted (ensures_iff_obeys.mp answers)
    (fun q r s t kept advanced => ⟨kept, advanced⟩) later
  exact ⟨fun w member own => (asked.pending w member own).1, asked.ended, answered.deeds,
    answered.ended⟩

/-- A call that begins an onboarding flow by its first form. -/
inductive Begins (d : Desk Memory) : Call → Prop where
  | user {handler : String} (registered : d.integrations[handler]? = some integration) :
    Begins d (.start handler .user none)
  | reauth {entryId : String} {e : Entry} (held : d.registry.get? entryId = some e)
    (registered : d.integrations[e.domain]? = some integration) : Begins d (.startReauth entryId)

theorem Begins.presents {c : Record Memory device} {start : Call} (begins : Begins c.state start) :
    ∃ f draft, Presents (c.happen steps (.call start)).state (Issue.id c.state.issued) f ∧
      f.kind = .config ∧ f.memory = .inl draft := by
  cases begins with
  | user registered => exact presents_user registered
  | reauth held registered => exact presents_reauth held registered

/-- On every run, what an onboarding flow is submitted at its user form is logged in with as it was
accepted, and any entry that the submit makes or repairs has that login with the port and the
transport that the device has reported, as data and as the connection read back from it. -/
theorem credentials_round_trip (d : Desk Memory) (before between later : List (Event Memory device))
    (start : Call) (input : Data) :
    let c₀ := (Record.restarted d).after steps before
    Begins c₀.state start →
    let id := Issue.id c₀.state.issued
    let c := (c₀.happen steps (.call start)).after steps between
    RoundTrip c.begun id input c.state
      ((c.happen steps (.call (.submit id input))).after steps later) := by
  intro c₀ begins id c
  obtain ⟨honours, counted, advanced⟩ := kept_conduct.resumed d before start between
  obtain ⟨f, draft, presents, kind, memory⟩ := begins.presents
  obtain ⟨g, presents, same, goes⟩ := presents.advance advanced
  obtain ⟨draft', memory⟩ := goes.draft draft memory
  exact round_trip_call honours counted presents (same.kind.trans kind) memory input later

/-- An entry that has nothing to log in with, and a port that no device has. -/
def faded : Entry :=
  { Entry.new "c" domain "Camera" .epoch with
    data := (∅ : Data).insert Key.port (.ofNat 70000)
    uniqueId := some "aa:bb:cc:dd:ee:ff" }

/-- A new desk with that entry. -/
def neglected : Record Memory device :=
  (Record.restarted { now := .epoch }).after steps
    [.integrate domain integration, .change (.mutate (.add faded))]

/-- A flow is started to repair the entry, and confirmed. -/
def confirmed : Record Memory device :=
  (neglected.happen steps (.call (.startReauth "c"))).after steps
    [.call (.submit (Issue.id neglected.state.issued) ∅)]

/-- The user logs in, and the camera answers. -/
def restored : Record Memory device :=
  (confirmed.happen steps (.call (.submit (Issue.id neglected.state.issued) credentials))).after
    steps [.reply 0 welcome, .reply 0 welcome, .reply 0 welcome, .reply 0 welcome]

theorem begins_neglected : Begins neglected.state (.startReauth "c") := .reauth (e := faded) rfl rfl

theorem faded_restored :
    Begins neglected.state (.startReauth "c") ∧
    RoundTrip confirmed.begun (Issue.id neglected.state.issued) credentials confirmed.state
      restored ∧
    restored.ended.head?.map (fun e => e.ending) =
      some (.ok (.flow (.ok ⟨Issue.id 0, domain, .aborted reauthSuccessful⟩))) ∧
    (restored.state.registry.get? "c").map (fun e => e.data.toList) =
      some [(Key.host, .text "h"), (Key.password, .text "p"), (Key.port, .ofNat 443),
        (Key.useHttps, .bool true), (Key.username, .text "u")] :=
  ⟨begins_neglected,
    credentials_round_trip { now := .epoch }
      [.integrate domain integration, .change (.mutate (.add faded))]
      [.call (.submit (Issue.id neglected.state.issued) ∅)]
      [.reply 0 welcome, .reply 0 welcome, .reply 0 welcome, .reply 0 welcome]
      (.startReauth "c") credentials begins_neglected,
    rfl, rfl⟩

end Onboarding.Camera
