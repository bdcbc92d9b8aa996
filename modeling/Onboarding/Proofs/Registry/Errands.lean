import Onboarding.Proofs.Registry.Standstill

/-! What setups, unloads and reloads come to, from every state of the registry and for every entry.
An integration that is asked gives an answer and leaves the registry alone; then each of the three
ends, asks at most once, and leaves the registry as its result says. -/
namespace Onboarding

namespace Entry

variable (e : Entry)

def inSetup : Entry := { e with phase := .setupInProgress, reason := none }

def loaded : Entry := { e with phase := .loaded, reason := none }

def unloading : Entry := { e with phase := .unloadInProgress, reason := none }

def failed (reason : String) : Entry := { e with phase := .setupError, reason := some reason }

end Entry

namespace Registry

/-- What a call comes to that has its turn: by the registry it then finds, by what it asks, by its
result, and by the registry it leaves. -/
abbrev Effect :=
  Registry → List (Heard Registry .hosting) → Except RegistryError Unit → Registry → Prop

variable {own : String → Prop} {r s t : Registry} {id : String} {e e' : Entry}
  {heard asked : List (Heard Registry .hosting)} {result : Except RegistryError Unit}

/-- The registry with another version of one of its entries. -/
def place (r : Registry) (e : Entry) : Registry := { r with toCatalog := r.revise e }

/-- The registry while a call has its turn. -/
def taken (r : Registry) : Registry := { r with settingUp := true }

theorem get?_place (r : Registry) (e : Entry) : (r.place e).get? e.id = some e := by
  simp [place]

theorem get?_place_of_ne (r : Registry) {e : Entry} {other : String} (apart : other ≠ e.id) :
    (r.place e).get? other = r.get? other := by
  simp [place, apart.symm]

/-- Of two versions of an entry the later one stays. -/
theorem place_place (r : Registry) (e later : Entry) (here : later.id = e.id) :
    (r.place e).place later = r.place later := by
  have same : (r.entries.insert e.id e).insert later.id later =
      r.entries.insert later.id later := by
    apply Std.ExtTreeMap.ext_getElem?
    intro id
    simp only [Std.ExtTreeMap.getElem?_insert, here]
    split <;> rfl
  simp only [place, Catalog.revise, same]

/-- An integration that is asked to set an entry up gives an answer and leaves the registry alone. A
call that waits finds that it has its turn, with every entry filed and those of its own as before. -/
def calm (own : String → Prop) : Terms Registry .hosting where
  finds
    | .setUp _, verdict, s, t => t = s ∧ ∀ x, verdict ≠ .crashed x
    | .awaitTurn, _, s, t =>
      t.settingUp = false ∧ t.Filed ∧ ∀ id, own id → t.get? id = s.get? id
  writes _ _ _ := True

/-- A call has its turn at once, or it waits for it while another one has it. -/
inductive Turn (own : String → Prop) (r : Registry) :
    List (Heard Registry .hosting) → Registry → Prop where
  | atOnce (idle : r.settingUp = false) : Turn own r [] r
  | waited (busy : r.settingUp = true) {s : Registry} (idle : s.settingUp = false)
    (kept : ∀ id, own id → s.get? id = r.get? id) : Turn own r [⟨.awaitTurn, (), s⟩] s

theorem Turn.get? {waits : List (Heard Registry .hosting)} (turn : Turn own r waits s)
    (mine : own id) : s.get? id = r.get? id := by
  cases turn with
  | atOnce => rfl
  | waited _ _ kept => exact kept id mine

/-- The integration of the entry is asked once, while the registry has the entry in setup. -/
def asking (s : Registry) (e : Entry) (verdict : Verdict) : Heard Registry .hosting :=
  ⟨.setUp e, verdict, (s.place e.inSetup).taken⟩

/-- The attempt to set an entry up. -/
inductive Attempting (e : Entry) : Effect where
  | alone {s : Registry} (unhandled : e.domain ∉ s.handled) :
    Attempting e s [] (.ok ()) (s.place e.loaded)
  | ready {s : Registry} (handled : e.domain ∈ s.handled) :
    Attempting e s [asking s e .ready] (.ok ()) (s.place e.loaded)
  | failed {s : Registry} (handled : e.domain ∈ s.handled) (reason : String) :
    Attempting e s [asking s e (.failed reason)] (.error (.setupFailed reason))
      (s.place (e.failed reason))

inductive SettingUp (id : String) : Effect where
  | missing {s : Registry} (absent : s.get? id = none) :
    SettingUp id s [] (.error (.notFound id)) s
  | disabled {s : Registry} {e : Entry} (held : s.get? id = some e)
    (disabled : e.isDisabled = true) : SettingUp id s [] (.ok ()) s
  | refused {s : Registry} {e : Entry} (held : s.get? id = some e)
    (enabled : e.isDisabled = false) (unfit : e.phase ≠ .notLoaded ∧ e.phase ≠ .setupError) :
    SettingUp id s [] (.error (.refused ⟨e.phase, .setupInProgress⟩)) s
  | tries {s t : Registry} {e : Entry} {asked : List (Heard Registry .hosting)}
    {result : Except RegistryError Unit} (held : s.get? id = some e)
    (enabled : e.isDisabled = false) (fit : e.phase = .notLoaded ∨ e.phase = .setupError)
    (attempts : Attempting e s asked result t) : SettingUp id s asked result t

inductive Unloading (id : String) : Effect where
  | missing {s : Registry} (absent : s.get? id = none) :
    Unloading id s [] (.error (.notFound id)) s
  | refused {s : Registry} {e : Entry} (held : s.get? id = some e)
    (transient : e.phase.settled = false) :
    Unloading id s [] (.error (.refused ⟨e.phase, .unloadInProgress⟩)) s
  | unloaded {s : Registry} {e : Entry} (held : s.get? id = some e)
    (settled : e.phase.settled = true) : Unloading id s [] (.ok ()) (s.place e.persisted)

inductive Reloading (id : String) : Effect where
  | missing {s : Registry} (absent : s.get? id = none) :
    Reloading id s [] (.error (.notFound id)) s
  | refused {s : Registry} {e : Entry} (held : s.get? id = some e)
    (transient : e.phase.settled = false) :
    Reloading id s [] (.error (.refused ⟨e.phase, .unloadInProgress⟩)) s
  | disabled {s : Registry} {e : Entry} (held : s.get? id = some e)
    (settled : e.phase.settled = true) (disabled : e.isDisabled = true) :
    Reloading id s [] (.ok ()) (s.place e.persisted)
  | tries {s t : Registry} {e : Entry} {asked : List (Heard Registry .hosting)}
    {result : Except RegistryError Unit} (held : s.get? id = some e)
    (settled : e.phase.settled = true) (enabled : e.isDisabled = false)
    (attempts : Attempting e.persisted s asked result t) : Reloading id s asked result t

def Errand.does : Errand → Effect
  | setUp id => SettingUp id
  | unload id => Unloading id
  | reload id => Reloading id

/-- The call ends, having come in its turn to what it does. -/
def comesTo (own : String → Prop) (heard : List (Heard Registry .hosting)) (r : Registry)
    (does : Effect) : Post Registry .hosting (Except RegistryError Unit) :=
  fun later ended t => ∃ waits s asked result, Turn own r waits s ∧
    later = heard ++ waits ++ asked ∧ ended = .ok result ∧ does s asked result t

/-- An attempt on a registry that had another version of the entry before. -/
theorem Attempting.of_place (here : e'.id = e.id)
    (attempts : Attempting e (r.place e') asked result t) : Attempting e r asked result t := by
  have placed (f : Entry) (named : f.id = e.id) : (r.place e').place f = r.place f :=
    place_place r e' f (named.trans here.symm)
  have asks (verdict : Verdict) : asking (r.place e') e verdict = asking r e verdict :=
    congrArg (fun s : Registry => (⟨.setUp e, verdict, s.taken⟩ : Heard Registry .hosting))
      (placed e.inSetup rfl)
  cases attempts with
  | alone unhandled =>
    rw [placed e.loaded rfl]
    exact .alone unhandled
  | ready handled =>
    rw [placed e.loaded rfl, asks]
    exact .ready handled
  | failed handled reason =>
    rw [placed (e.failed reason) rfl, asks]
    exact .failed (s := r) handled reason

namespace Action

variable {α : Type} {does : Effect} {target : Phase} {reason : Option String}

/-- The action ends within the turn, having come to what it does. -/
def acting (heard : List (Heard Registry .hosting)) (s : Registry) (does : Effect) :
    Post Registry .hosting (Except RegistryError Unit) :=
  fun later ended t => ∃ asked result u, later = heard ++ asked ∧ ended = .ok result ∧
    t = u.taken ∧ u.settingUp = false ∧ does s asked result u

theorem released (idle : s.settingUp = false) : { s.taken with settingUp := false } = s := by
  cases s
  cases idle
  rfl

/-- A call comes to what its action does in its turn. -/
theorem comesTo_inTurn {a : Action Unit} (filed : r.Filed)
    (acts : ∀ heard s, s.Filed → s.settingUp = false →
      a.run.Ensures (calm own) (acting heard s does) heard s.taken) :
    (inTurn a).run.Ensures (calm own) (comesTo own heard r does) heard r := by
  refine ensures_inTurn fun later s reached => ⟨trivial, ?_⟩
  have came : ∃ waits, Turn own r waits s ∧ later = heard ++ waits ∧ s.Filed := by
    rcases reached with ⟨idle, rfl, rfl⟩ | ⟨busy, ⟨idle, filed, kept⟩, rfl⟩
    · exact ⟨[], .atOnce idle, (List.append_nil _).symm, filed⟩
    · exact ⟨_, .waited busy idle kept, rfl, filed⟩
  obtain ⟨waits, turn, rfl, filed⟩ := came
  have idle : s.settingUp = false := by
    cases turn <;> assumption
  refine Job.ensures_imp ?_ (acts (heard ++ waits) s filed idle)
  rintro later ended t ⟨asked, result, u, rfl, rfl, rfl, free, done⟩
  exact ⟨trivial, waits, s, asked, result, turn, rfl, rfl, (released free).symm ▸ done⟩

theorem ensures_enter_taken {f : Unit → Action α}
    {post : Post Registry .hosting (Except RegistryError α)} (held : s.get? e.id = some e)
    (leads : e.phase.leadsTo target = true)
    (entered : (f ()).run.Ensures (calm own) post heard
      (s.place { e with phase := target, reason }).taken) :
    (enter e.id target reason >>= f).run.Ensures (calm own) post heard s.taken :=
  ensures_enter held leads trivial entered

/-- A setup of an entry that is enabled and in a phase that leads to its setup. -/
theorem acting_attempt (idle : s.settingUp = false) (held : s.get? e.id = some e)
    (enabled : e.isDisabled = false) (leads : e.phase.leadsTo .setupInProgress = true) :
    (setUpNow e.id).run.Ensures (calm own) (acting heard s (Attempting e)) heard s.taken := by
  rw [setUpNow, Job.ensures_run_get_bind, show s.taken.get? e.id = some e from held]
  dsimp only
  rw [if_neg (by simp [enabled])]
  refine ensures_enter_taken held leads ?_
  have here : (s.place e.inSetup).get? e.id = some e.inSetup := get?_place s e.inSetup
  have loads {asked : List (Heard Registry .hosting)}
      (attempt : Attempting e s asked (.ok ()) (s.place e.loaded)) :
      (enter e.id .loaded none).run.Ensures (calm own) (acting heard s (Attempting e))
        (heard ++ asked) (s.place e.inSetup).taken := by
    rw [← bind_pure (enter e.id .loaded none)]
    refine ensures_enter_taken (e := e.inSetup) here rfl
      ⟨asked, .ok (), s.place e.loaded, rfl, rfl, ?_, idle, attempt⟩
    exact congrArg taken (s.place_place e.inSetup e.loaded rfl)
  change (if e.domain ∈ s.handled then _ else _ : Action Unit).run.Ensures (calm own) _ _
    (s.place e.inSetup).taken
  split
  · rename_i handled
    rintro verdict t ⟨rfl, calm⟩
    cases verdict with
    | ready => exact loads (.ready handled)
    | failed reason =>
      refine ensures_enter_taken (e := e.inSetup) here rfl
        ⟨_, _, s.place (e.failed reason), rfl, rfl, ?_, idle, .failed handled reason⟩
      exact congrArg taken (s.place_place e.inSetup (e.failed reason) rfl)
    | crashed x => exact absurd rfl (calm x)
  · rename_i unhandled
    have loaded := loads (.alone unhandled)
    rwa [List.append_nil] at loaded

theorem acting_imp {does' : Effect} {a : Action Unit} {u : Registry}
    (weaker : ∀ asked result t, does s asked result t → does' u asked result t)
    (acts : a.run.Ensures (calm own) (acting heard s does) heard r) :
    a.run.Ensures (calm own) (acting heard u does') heard r := by
  refine Job.ensures_imp ?_ acts
  rintro later ended t ⟨asked, result, v, grown, ends, taken, free, done⟩
  exact ⟨asked, result, v, grown, ends, taken, free, weaker _ _ _ done⟩

/-- What ends at once without asking. -/
theorem acting_now (idle : t.settingUp = false) (done : does s [] result t) :
    acting heard s does heard (.ok result) t.taken :=
  ⟨[], result, t, (List.append_nil _).symm, rfl, rfl, idle, done⟩

theorem acting_setUpNow (id : String) (filed : s.Filed) (idle : s.settingUp = false) :
    (setUpNow id).run.Ensures (calm own) (acting heard s (SettingUp id)) heard s.taken := by
  cases held : s.get? id with
  | none =>
    rw [setUpNow, Job.ensures_run_get_bind, show s.taken.get? id = none from held]
    exact acting_now idle (.missing held)
  | some e =>
    obtain rfl := filed id e held
    cases disabled : e.isDisabled with
    | true =>
      rw [setUpNow, Job.ensures_run_get_bind, show s.taken.get? e.id = some e from held]
      dsimp only
      rw [if_pos disabled]
      exact acting_now idle (.disabled held disabled)
    | false =>
      cases leads : e.phase.leadsTo .setupInProgress with
      | true =>
        have fit : e.phase = .notLoaded ∨ e.phase = .setupError := by
          revert leads
          cases e.phase <;> decide
        exact acting_imp (fun _ _ _ => .tries held disabled fit)
          (acting_attempt idle held disabled leads)
      | false =>
        have unfit : e.phase ≠ .notLoaded ∧ e.phase ≠ .setupError := by
          revert leads
          cases e.phase <;> decide
        rw [setUpNow, Job.ensures_run_get_bind, show s.taken.get? e.id = some e from held]
        dsimp only
        rw [if_neg (by simp [disabled])]
        exact ensures_enter_refused held leads (acting_now idle (.refused held disabled unfit))

theorem leadsTo_unloadInProgress (phase : Phase) :
    phase.leadsTo .unloadInProgress = phase.settled := by
  cases phase <;> rfl

/-- An unload is refused, and what follows it then left out, if there is no such entry or it is in
transition; else what follows finds the entry as it is kept over a restart. -/
theorem ensures_unloadNow_bind {f : Unit → Action α}
    {post : Post Registry .hosting (Except RegistryError α)} (filed : s.Filed)
    (missing : s.get? id = none → post heard (.ok (.error (.notFound id))) s.taken)
    (transient : ∀ e, s.get? id = some e → e.phase.settled = false →
      post heard (.ok (.error (.refused ⟨e.phase, .unloadInProgress⟩))) s.taken)
    (unloaded : ∀ e, s.get? id = some e → e.phase.settled = true →
      (f ()).run.Ensures (calm own) post heard (s.place e.persisted).taken) :
    (unloadNow id >>= f).run.Ensures (calm own) post heard s.taken := by
  rw [unloadNow, bind_assoc]
  cases held : s.get? id with
  | none =>
    have result : s.taken.enter id .unloadInProgress none = .error (.notFound id) := by
      rw [Registry.enter, show s.taken.get? id = none from held]
    rw [enter, bind_assoc, Job.ensures_run_get_bind, result]
    exact missing held
  | some e =>
    obtain rfl := filed id e held
    cases settled : e.phase.settled with
    | true =>
      refine ensures_enter_taken held ((leadsTo_unloadInProgress _).trans settled) ?_
      refine ensures_enter_taken (e := e.unloading) (get?_place s e.unloading) rfl ?_
      change (f ()).run.Ensures (calm own) post heard ((s.place e.unloading).place e.persisted).taken
      rw [s.place_place e.unloading e.persisted rfl]
      exact unloaded e held settled
    | false =>
      exact ensures_enter_refused held ((leadsTo_unloadInProgress _).trans settled)
        (transient e held settled)

theorem acting_unloadNow (id : String) (filed : s.Filed) (idle : s.settingUp = false) :
    (unloadNow id).run.Ensures (calm own) (acting heard s (Unloading id)) heard s.taken := by
  rw [← bind_pure (unloadNow id)]
  exact ensures_unloadNow_bind filed (fun absent => acting_now idle (.missing absent))
    (fun e held transient => acting_now idle (.refused held transient))
    fun e held settled => acting_now idle (.unloaded held settled)

theorem acting_reload (id : String) (filed : s.Filed) (idle : s.settingUp = false) :
    (unloadNow id >>= fun _ => setUpNow id).run.Ensures (calm own) (acting heard s (Reloading id))
      heard s.taken := by
  refine ensures_unloadNow_bind filed (fun absent => acting_now idle (.missing absent))
    (fun e held transient => acting_now idle (.refused held transient)) fun e held settled => ?_
  obtain rfl := filed id e held
  have here : (s.place e.persisted).get? e.id = some e.persisted := get?_place s e.persisted
  have kept : (s.place e.persisted).Filed := filed.revise _
  refine acting_imp (fun asked result t sets => ?_) (acting_setUpNow e.id kept idle)
  cases sets with
  | missing absent => simp [here] at absent
  | disabled found disabled =>
    cases here.symm.trans found
    exact .disabled held settled disabled
  | refused found _ unfit =>
    cases here.symm.trans found
    exact absurd rfl unfit.1
  | tries found enabled _ attempts =>
    cases here.symm.trans found
    exact .tries held settled enabled (attempts.of_place rfl)

theorem comesTo_errand (filed : r.Filed) (errand : Errand) :
    errand.action.run.Ensures (calm own) (comesTo own heard r errand.does) heard r := by
  cases errand with
  | setUp id => exact comesTo_inTurn filed fun _ _ => acting_setUpNow id
  | unload id => exact comesTo_inTurn filed fun _ _ => acting_unloadNow id
  | reload id => exact comesTo_inTurn filed fun _ _ => acting_reload id

/-! A reload that has its turn at once does what an unload and then a setup do. -/

theorem advance_enter (id : String) (target : Phase) (reason : Option String) (r : Registry) :
    (enter id target reason).run.advance r =
      match r.enter id target reason with
      | .ok s => (.done (.ok ()), s)
      | .error x => (.done (.error x), r) := by
  rw [enter]
  change Job.advance (match r.enter id target reason with
    | .ok s => set s
    | .error x => throw x : Action Unit).run r = _
  cases r.enter id target reason <;> rfl

theorem enter_taken (entered : r.taken.enter id target reason = .ok s) :
    ∃ u : Registry, s = u.taken ∧ u.settingUp = false := by
  refine ⟨{ s with settingUp := false }, ?_, rfl⟩
  unfold Registry.enter at entered
  split at entered
  · cases entered
  split at entered
  · cases entered
    rfl
  · cases entered

/-- An unload within the turn ends without asking, and leaves it to be given back. -/
theorem advance_unloadNow (idle : r.settingUp = false) (id : String) :
    ∃ result u, (unloadNow id).run.advance r.taken = (.done result, taken u) ∧
      u.settingUp = false := by
  rw [unloadNow, ExceptT.run_bind, Job.advance_bind, advance_enter]
  cases entered : r.taken.enter id .unloadInProgress none with
  | error x => exact ⟨_, r, rfl, idle⟩
  | ok s =>
    obtain ⟨u, rfl, free⟩ := enter_taken entered
    change ∃ result v, (enter id .notLoaded none).run.advance u.taken = _ ∧ _
    rw [advance_enter]
    cases entered : u.taken.enter id .notLoaded none with
    | error x => exact ⟨_, u, rfl, free⟩
    | ok s =>
      obtain ⟨v, rfl, free⟩ := enter_taken entered
      exact ⟨_, v, rfl, free⟩

theorem advance_inTurn (idle : r.settingUp = false) (a : Action α) :
    (inTurn a).run.advance r =
      Job.advance (a.run.closing (modify ({ · with settingUp := false }))) r.taken := by
  change Job.advance (if r.settingUp = true then _ else _ : Action α).run r = _
  rw [idle]
  rfl

theorem advance_reload (idle : r.settingUp = false) (id : String) :
    (reload id).run.advance r = (do unload id; setUp id : Action Unit).run.advance r := by
  obtain ⟨result, u, unloads, free⟩ := advance_unloadNow idle id
  rw [reload, advance_inTurn idle, Job.advance_closing, ExceptT.run_bind, Job.advance_bind, unloads,
    ExceptT.run_bind, Job.advance_bind, unload, advance_inTurn idle, Job.advance_closing, unloads]
  cases result with
  | error x => rfl
  | ok =>
    have back : { u.taken with settingUp := false } = u := released free
    change _ = (setUp id).run.advance { u.taken with settingUp := false }
    rw [back, setUp, advance_inTurn free, Job.advance_closing]

end Action

/-- The lifecycle refuses no reload of a settled entry. -/
theorem Reloading.unrefused (reloads : Reloading id s asked result t) (held : s.get? id = some e)
    (settled : e.phase.settled = true) (refusal : Phase.Refusal) :
    result ≠ .error (.refused refusal) := by
  rintro rfl
  cases reloads with
  | refused found transient =>
    cases held.symm.trans found
    exact absurd (settled.symm.trans transient) (by decide)
  | tries _ _ _ attempts => cases attempts

/-- Every setup, unload and reload comes in its turn to what it does from the registry it then
finds; and a reload does what an unload and then a setup do, and is not refused if the entry is
settled. -/
theorem errand_outcomes (own : String → Prop) (filed : r.Filed) :
    (∀ errand : Errand,
      errand.action.run.Ensures (calm own) (comesTo own [] r errand.does) [] r) ∧
    ∀ id, (r.settingUp = false → (Action.reload id).run.advance r =
        (do Action.unload id; Action.setUp id : Action Unit).run.advance r) ∧
      ∀ s e asked result t, s.get? id = some e → e.phase.settled = true →
        Reloading id s asked result t → ∀ refusal, result ≠ .error (.refused refusal) :=
  ⟨Action.comesTo_errand filed, fun id => ⟨fun idle => Action.advance_reload idle id,
    fun _ _ _ _ _ held settled reloads => reloads.unrefused held settled⟩⟩

theorem filed_handledLamp : handledLamp.state.Filed :=
  (upkeep_filed.opened trivial (Course.throughout_true _ _) _ (List.mem_cons_self ..)).1

/-- The lamp is set up: its integration is asked once. -/
theorem lamp_errands :
    handledLamp.state.Filed ∧
      (Action.setUp "a").run.Ensures (calm fun _ => False)
        (comesTo (fun _ => False) [] handledLamp.state (SettingUp "a")) [] handledLamp.state :=
  ⟨filed_handledLamp, (errand_outcomes (fun _ => False) filed_handledLamp).1 (.setUp "a")⟩

end Registry

end Onboarding
