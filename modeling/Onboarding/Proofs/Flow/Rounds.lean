import Onboarding.Proofs.Flow.Ledger
import Onboarding.Proofs.Flow.Runs

/-! Rounds at a desk whose calls take turns. Whatever happens there, the ledger is kept: a job that
goes on is taken off it, keeps to what it owes, and is entered again. -/
namespace Onboarding.Desk

open Job

variable {H : Type} {F : Signature} {u : Practice H} {steps : Steps H F}
  {starts : Nat → String → Prop} {c : Record H F} {g id : String} {first : Bool}
  {p : Party (Option String)} {heard : List (Heard (Desk H) (.desk F))} {j : Work H F Answer}

/-- The turn on a flow is granted only while nobody has it. -/
def Record.Grants (c : Record H F) : Event H F → Prop
  | .reply place say => ∀ w id, c.pending[place]? = some w → w.request = .awaitFlow id →
    (say w.request).isSome = true → ¬ c.state.Busy id
  | _ => True

/-- Where all wait for devices, no turn is granted. -/
theorem Record.grants_device {place : Nat} {say : ∀ q : Calling F, Option q.Reply}
    (qs : List F.Request) (asks : c.pending.map (fun w => w.request) = qs.map .device) :
    c.Grants (.reply place say) := by
  intro w id found awaits
  have member : w.request ∈ c.pending.map (fun w => w.request) :=
    List.mem_map_of_mem (List.mem_of_getElem? found)
  rw [asks, awaits] at member
  obtain ⟨q, _, ⟨⟩⟩ := List.mem_map.mp member

/-- Throughout the events the calls on a flow take turns. -/
def Record.TakesTurns (steps : Steps H F) : Record H F → List (Event H F) → Prop
  | _, [] => True
  | c, event :: events => c.Grants event ∧ TakesTurns steps (c.happen steps event) events

namespace Record

theorem takesTurns_append {events later : List (Event H F)} :
    c.TakesTurns steps (events ++ later) ↔
      c.TakesTurns steps events ∧ TakesTurns steps (c.after steps events) later := by
  induction events generalizing c with
  | nil => exact (Iff.of_eq (true_and _)).symm
  | cons event events ih =>
    refine (and_congr_right fun _ => ih).trans ?_
    exact and_assoc.symm

end Record

namespace Ledger

theorem shows (ledger : Ledger u steps starts none c) {page : Page}
    (shown : c.lastForm id = some page) : c.state.Shows id page :=
  (ledger.shown id page shown).resolve_left (by rintro ⟨⟩)

theorem follow_aside (ledger : Ledger u steps starts none c) (agent : p.agent = none)
    (number : p.number < c.begun)
    (obeys : j.Obeys (aside u) (fun _ ended _ => ∀ a, ended ≠ .ok (.flow a)) heard c.state) :
    Ledger u steps starts none (Chronicle.follow p heard j c) := by
  obtain ⟨c', written, ⟨q, next, stops, _, goes⟩ | ⟨ending, stops, ends⟩⟩ :=
    Chronicle.follow_obeys (p := p) obeys
  · rw [stops]
    have number : p.number < c'.begun := written.begun ▸ number
    refine (ledger.written written).await number rfl (.errand agent goes) (fun id => ?_)
      (by rintro id page ⟨⟩) (by rintro id ⟨⟩)
    constructor
    · intro inStep
      cases agent.symm.trans inStep.1
    · rintro ⟨⟩
  · rw [stops]
    have number : p.number < c'.begun := written.begun ▸ number
    refine (ledger.written written).close number ⟨by rintro id ⟨⟩, fun id page shown => ?_,
      by rintro id page ⟨⟩, fun id concludes => ?_, by rintro id _ ⟨⟩, fun id _ fails => ?_⟩
    · obtain ⟨r, answer, _⟩ := shownBy_eq_some.mp shown
      exact absurd answer (ends _)
    · obtain ⟨r, answer, _⟩ := concludes
      exact absurd answer (ends _)
    · obtain ⟨e, answer⟩ := fails
      exact absurd answer (ends _)

/-- A call that gives the turn back is entered with what it has to show. -/
theorem closes_of_returns {ended : Except Crash (Except FlowError FlowResult)}
    (returns : Returns g (c.lastForm g) first heard ended c.state)
    (opens : Concludes g (ended.map Answer.flow) → Open c g) (agent : p.agent = some g)
    (begun : first = false → c.Begun g ∨ c.state.Off g)
    (started : ∀ id, starts p.number id → id = g ∧ first = true)
    (there : ∀ id, starts p.number id → ∃ f, c.state.flows[id]? = some f) :
    Closes starts (some g) c ⟨p, heard, ended.map Answer.flow, c.state⟩ := by
  obtain ⟨free, leaves⟩ := returns
  have silent {id : String} {page : Page} (other : ∀ r, ended ≠ .ok (.ok r)) :
      shownBy id (ended.map Answer.flow) ≠ some page := by
    intro shown
    obtain ⟨r, answer, _⟩ := shownBy_eq_some.mp shown
    match ended with
    | .ok (.ok r) => exact other r rfl
    | .ok (.error e) => cases answer
    | .error x => cases answer
  have goes {id : String} (other : ∀ r, ended ≠ .ok (.ok r)) :
      ¬ Concludes id (ended.map Answer.flow) := by
    rintro ⟨r, answer, _⟩
    match ended with
    | .ok (.ok r) => exact other r rfl
    | .ok (.error e) => cases answer
    | .error x => cases answer
  have begins (begun : c.Begun g ∨ c.state.Off g) (listed : g ∈ c.state.listed) :
      Record.Begun (Chronicle.close c ⟨p, heard, ended.map Answer.flow, c.state⟩) g :=
    begun.elim (begun_close _) fun off => absurd listed off.unlisted
  refine ⟨?_, ?_, ?_, ?_, ?_, ?_⟩
  · rintro id ⟨⟩
    exact free
  · intro id page shown
    cases leaves with
    | form named body shows =>
      obtain ⟨r, ⟨⟩, rfl, body'⟩ := shownBy_eq_some.mp shown
      cases body.symm.trans body'
      exact ⟨congrArg some named.symm, named ▸ shows⟩
    | terminal named terminal gone shows =>
      cases shown.symm.trans (Concludes.not_shownBy ⟨_, rfl, terminal, named⟩)
    | fails => exact absurd shown (silent (by rintro r ⟨⟩))
    | crashes => exact absurd shown (silent (by rintro r ⟨⟩))
  · rintro id page ⟨⟩ none shown
    cases leaves with
    | form named body shows => cases none.symm.trans (shownBy_eq_some.mpr ⟨_, rfl, named, body⟩)
    | terminal named terminal gone shows => exact shows page shown
    | fails unlisted shows => exact shows page shown
    | crashes shows => exact shows page shown
  · intro id concludes
    cases leaves with
    | form named body shows =>
      have shown := shownBy_eq_some.mpr ⟨_, rfl, named, body⟩
      cases shown.symm.trans concludes.not_shownBy
    | terminal named terminal gone shows =>
      have opened := opens ⟨_, rfl, terminal, named⟩
      obtain ⟨r, ⟨⟩, _, rfl⟩ := concludes
      cases named
      exact ⟨rfl, gone, opened⟩
    | fails => exact absurd concludes (goes (by rintro r ⟨⟩))
    | crashes => exact absurd concludes (goes (by rintro r ⟨⟩))
  · rintro id listed ⟨⟩
    cases leaves with
    | form named body shows =>
      have shown := shownBy_eq_some.mpr ⟨_, rfl, named, body⟩
      refine .inl ?_
      rw [lastForm_close]
      intro none
      cases shown.symm.trans (Option.or_eq_none_iff.mp none).1
    | terminal named terminal gone shows => exact absurd listed gone.unlisted
    | fails unlisted shows =>
      cases first with
      | true => exact absurd listed (unlisted rfl)
      | false => exact begins (begun rfl) listed
    | crashes shows => exact .inr ⟨_, List.mem_cons_self .., agent, _, rfl⟩
  · intro id began fails
    obtain ⟨rfl, rfl⟩ := started id began
    refine ⟨there id began, ?_⟩
    cases leaves with
    | form | terminal =>
      obtain ⟨e, ⟨⟩⟩ := fails
    | fails unlisted shows => exact unlisted rfl
    | crashes => obtain ⟨e, ⟨⟩⟩ := fails

theorem lastForm_congr {c' : Record H F} (same : c'.ended = c.ended) :
    c'.lastForm id = c.lastForm id := by
  rw [Record.lastForm, Record.lastForm, same]

theorem begun_congr {c' : Record H F} (same : c'.ended = c.ended) : c'.Begun id ↔ c.Begun id := by
  rw [Record.Begun, Record.Begun, Record.Stumbled, Record.Stumbled, lastForm_congr same, same]

/-- What a call writes in its turn leads on from where it was. -/
theorem forth_written {c' : Record H F}
    (written : Chronicle.Written (Stroke u (some g)) p heard c c') : Forth c.state c'.state :=
  written.keeps (P := fun v => Forth c.state v.state)
    (fun _ _ forth stroke => forth.trans stroke.forth) (.refl _)

theorem forth_follow {page : Option Page} {post : Post (Desk H) (.desk F) Answer}
    (obeys : j.Obeys (manners u g page) post heard c.state) :
    Forth c.state (Chronicle.follow p heard j c).state := by
  obtain ⟨c', written, stops⟩ := Chronicle.follow_obeys (p := p) obeys
  have forth : Forth c.state c'.state := forth_written written
  rcases stops with ⟨q, next, stops, _⟩ | ⟨ending, stops, _⟩
  · rw [stops]
    exact forth
  · rw [stops]
    exact forth

/-- A call in its turn goes on until it is entered again. -/
theorem follow_seated (ledger : Ledger u steps starts (some g) c) (agent : p.agent = some g)
    (number : p.number < c.begun) (opens : Open c g)
    (begun : first = false → c.Begun g ∨ c.state.Off g)
    (started : ∀ id, starts p.number id → id = g ∧ first = true)
    (there : ∀ id, starts p.number id →
      ∃ f, (Chronicle.follow p heard j c).state.flows[id]? = some f)
    (obeys : j.Obeys (manners u g (c.lastForm g)) (answering (Returns g (c.lastForm g) first)) heard
      c.state) : Ledger u steps starts none (Chronicle.follow p heard j c) := by
  obtain ⟨c', written, stops⟩ := Chronicle.follow_obeys (p := p) obeys
  have ledger' := ledger.written written
  have number' : p.number < c'.begun := written.begun ▸ number
  have opens' : Open c' g := by
    rw [Open, written.ended]
    exact opens
  have form : Record.lastForm c' g = c.lastForm g := lastForm_congr written.ended
  have forth : Forth c.state c'.state := forth_written written
  have begun' (later : first = false) : Record.Begun c' g ∨ c'.state.Off g :=
    (begun later).imp (begun_congr written.ended).mpr forth.off
  rcases stops with ⟨q, next, stops, ⟨turn, held⟩, goes⟩ | ⟨ending, stops, ended, rfl, returns⟩
  · rw [stops]
    refine ledger'.await number' rfl ?_ (fun id => ?_) (fun id page out shown => ?_) ?_
    · refine .seated ⟨agent, turn⟩ held.busy begun' started ?_
      change ∀ r t, (manners u g (Record.lastForm c' g)).finds q r c'.state t → (next r).Obeys
        (manners u g (Record.lastForm c' g)) (answering (Returns g (Record.lastForm c' g) first)) _ t
      rw [form]
      exact goes
    · constructor
      · intro inStep
        exact agent.symm.trans inStep.1
      · rintro ⟨⟩
        exact ⟨agent, turn⟩
    · cases out
      exact held.shows page (form.symm.trans shown)
    · rintro id ⟨⟩
      exact opens'
  · rw [stops] at there ⊢
    rw [← form] at returns
    exact ledger'.close number'
      (closes_of_returns returns (fun _ => opens') agent begun' started there)

theorem begun_of_free (ledger : Ledger u steps starts none c) (free : ¬ c.state.Busy g)
    (known : ∃ f, c.state.flows[g]? = some f) : c.Begun g ∨ c.state.Off g := by
  by_cases listed : g ∈ c.state.listed
  · rcases (ledger.begins g listed).resolve_left (by rintro ⟨⟩) with begun | inStep
    · exact .inl begun
    · exact absurd (ledger.busy inStep) free
  · exact .inr ⟨known, listed⟩

/-- A submit takes a turn that is free, whether its flow has ended meanwhile or not. -/
theorem follow_turn (trains : u.Trains steps) (ledger : Ledger u steps starts none c)
    (free : ¬ c.state.Busy g) (known : ∃ f, c.state.flows[g]? = some f)
    (agent : p.agent = some g) (number : p.number < c.begun)
    (later : ∀ id, ¬ starts p.number id) (input : Data) :
    Ledger u steps starts none (Chronicle.follow p heard (turnCall steps g input) c) := by
  have begun (_ : false = false) : c.Begun g ∨ c.state.Off g := ledger.begun_of_free free known
  have started (id : String) (starts : starts p.number id) : id = g ∧ false = true :=
    absurd starts (later id)
  have shows (page : Page) (shown : c.lastForm g = some page) : c.state.Shows g page :=
    ledger.shows shown
  have taken := ledger.take free
  obtain ⟨f, here⟩ := known
  cases ended : f.finished with
  | false =>
    have opens : Open c g := ledger.open_of_not_over fun gone => by
      obtain ⟨f', there, finished⟩ := gone.flow
      cases here.symm.trans there
      cases ended.symm.trans finished
    exact taken.follow_seated agent number opens begun started
      (fun id starts => absurd starts (later id))
      (obeys_answered (obeys_turnJob trains ledger.sound here shows input))
  | true =>
    have obeys : (turnCall steps g input).Obeys _ _ heard c.state :=
      obeys_answered (obeys_turnJob_over ledger.sound here ended shows input)
    obtain ⟨c', written, ⟨q, next, _, never, _⟩ | ⟨ending, stops, ended, rfl, returns, e, rfl⟩⟩ :=
      Chronicle.follow_obeys (p := p) obeys
    · exact never.elim
    · have there : ∀ id, starts p.number id → ∃ f, c'.state.flows[id]? = some f :=
        fun id starts => absurd starts (later id)
      have forth : Forth c.state c'.state := forth_written written
      have form : Record.lastForm c' g = c.lastForm g := lastForm_congr written.ended
      rw [← form] at returns
      rw [stops]
      refine (taken.written written).close (written.begun ▸ number) (closes_of_returns returns ?_ agent
        (fun later => (begun later).imp (begun_congr written.ended).mpr forth.off) started there)
      rintro ⟨r, ⟨⟩, _⟩

/-- A job that has its reply goes on as it stands. -/
theorem reply (trains : u.Trains steps) (ledger : Ledger u steps starts none c) {place : Nat}
    {say : ∀ q : Calling F, Option q.Reply} (grants : c.Grants (.reply place say)) :
    Ledger u steps starts none (c.reply place say) := by
  rcases c.reply_cases place say with same | ⟨w, answer, found, said, same⟩ <;> rw [same]
  · exact ledger
  have member := List.mem_of_getElem? found
  have number := ledger.waiting w member
  have since := ledger.since w member
  cases ledger.standing w member with
  | errand agent goes =>
    have left := ledger.leave none found fun id => by
      constructor
      · intro inStep
        cases agent.symm.trans inStep.1
      · rintro ⟨⟩
    exact left.follow_aside agent number (goes answer c.state ⟨ledger.sound, since⟩)
  | @queued party _ id input agent known later =>
    have left := ledger.leave none found fun g => by
      constructor
      · intro inStep
        exact absurd rfl (inStep.2 id)
      · rintro ⟨⟩
    have free : ¬ c.state.Busy id := grants _ id found rfl (by rw [said]; rfl)
    exact left.follow_turn trains free known agent number later input
  | @seated _ id first inStep busy begun started goes =>
    have left := ledger.leave (some id) found fun g => by
      constructor
      · intro inStep'
        exact inStep.1.symm.trans inStep'.1
      · rintro ⟨⟩
        exact inStep
    have opens : Open c id := fun e ended concludes =>
      (ledger.gone e ended id concludes).2 ⟨w, member, inStep⟩
    have held : c.state.Held id (c.lastForm id) := ⟨busy, fun p shown => ledger.shows shown⟩
    have obeys := goes answer c.state ⟨ledger.sound, since, held⟩
    refine left.follow_seated inStep.1 number opens begun started (fun g starts => ?_) obeys
    obtain ⟨rfl, _⟩ := started g starts
    exact (forth_follow (c := { c with pending := c.pending.eraseIdx place }) obeys).flow busy.flow

/-- A submit is turned away, or takes its turn, or waits for it. -/
theorem submit (trains : u.Trains steps) (ledger : Ledger u steps starts none c) (id : String)
    (input : Data) (later : ∀ g, ¬ starts c.begun g) :
    Ledger u steps starts none (c.happen steps (.call (.submit id input))) := by
  have entered := ledger.enter
  have number : c.begun < c.begun + 1 := Nat.lt_succ_self _
  by_cases listed : id ∈ c.state.listed
  · have known := ledger.sound.numbered.listed id listed
    by_cases busy : c.state.Busy id
    · rw [submit_busy listed busy]
      refine entered.await number (.refl _) (.queued rfl known later) (fun g => ?_)
        (by rintro g page ⟨⟩) (by rintro g ⟨⟩)
      constructor
      · intro inStep
        exact absurd rfl (inStep.2 id)
      · rintro ⟨⟩
    · rw [submit_free listed busy]
      exact entered.follow_turn trains busy known rfl number later input
  · rw [submit_unlisted listed]
    refine entered.close number ⟨by rintro g ⟨⟩, fun g page shown => ?_, by rintro g page ⟨⟩,
      fun g concludes => ?_, by rintro g _ ⟨⟩, fun g began => absurd began (later g)⟩
    · cases shown
    · obtain ⟨r, ⟨⟩, _⟩ := concludes

/-- A call that starts a flow takes the turn on it. -/
theorem begin (trains : u.Trains steps) (ledger : Ledger u steps starts none c) {call : Call}
    (opening : call.Starts)
    (began : ∀ id, starts c.begun id → id = call.flow c.state ∧
      ∃ f, (c.happen steps (.call call)).state.flows[id]? = some f) :
    Ledger u steps starts none (c.happen steps (.call call)) := by
  have fresh : call.flow c.state = Issue.id c.state.issued := by
    cases call with
    | submit => exact opening.elim
    | start | startReauth | startOptions => rfl
  have free : ¬ c.state.Busy (call.flow c.state) := fresh ▸ ledger.sound.fresh
  have unknown {f : Flow H} : c.state.flows[call.flow c.state]? ≠ some f := by
    rw [fresh, ledger.sound.numbered.fresh]
    rintro ⟨⟩
  have unshown : c.lastForm (call.flow c.state) = none := by
    rw [Option.eq_none_iff_forall_ne_some]
    intro page shown
    obtain ⟨f, here, _⟩ := (ledger.shows shown).flow
    exact unknown here
  have opens : Open c (call.flow c.state) := ledger.open_of_not_over fun gone => by
    obtain ⟨f, here, _⟩ := gone.flow
    exact unknown here
  have obeys := call.obeys_start trains opening ledger.sound
  rw [← unshown] at obeys
  refine (ledger.enter.take free).follow_seated rfl (Nat.lt_succ_self _) opens
    (by rintro ⟨⟩) (fun id starts => ⟨(began id starts).1, rfl⟩)
    (fun id starts => (began id starts).2) obeys

/-- Whatever happens, the ledger is kept. -/
theorem happen (trains : u.Trains steps) (ledger : Ledger u steps starts none c)
    {event : Event H F} (grants : c.Grants event)
    (admits : ∀ domain i, event = .integrate domain i → u.Admits domain i)
    (began : ∀ call, event = .call call → ∀ id, starts c.begun id → call.Starts ∧
      id = call.flow c.state ∧ ∃ f, (c.happen steps event).state.flows[id]? = some f) :
    Ledger u steps starts none (c.happen steps event) := by
  have beside {t : Desk H} (stroke : Stroke u none c.state t) :
      Ledger u steps starts none (c.put t) :=
    ledger.put stroke.sound stroke.forth
      (fun id _ => stroke.spares.undisturbed (by rintro ⟨⟩)) c.deeds
  cases event with
  | change change => exact beside (ledger.sound.changed change none)
  | issue => exact beside (ledger.sound.issue none)
  | integrate domain i => exact beside (ledger.sound.integrate (admits domain i rfl) none)
  | time now => exact beside (ledger.sound.time now none)
  | abort id =>
    have stroke := ledger.sound.abort id
    exact ledger.put stroke.sound stroke.forth
      (fun g _ => ledger.sound.undisturbed_abort id g) c.deeds
  | errand e =>
    exact ledger.enter.follow_aside rfl (Nat.lt_succ_self _) (obeys_errand e ledger.sound)
  | reply place say => exact ledger.reply trains grants
  | call call =>
    cases call with
    | submit id input =>
      exact ledger.submit trains id input fun g starts => (began _ rfl g starts).1
    | start | startReauth | startOptions =>
      exact ledger.begin trains trivial fun id starts => (began _ rfl id starts).2

/-- A ledger with events to come in which the calls on a flow take turns and admitted integrations
are registered, and in which no job begins of which anything is supposed. -/
structure Ahead (u : Practice H) (steps : Steps H F) (starts : Nat → String → Prop)
    (c : Record H F) (events : List (Event H F)) : Prop where
  ledger : Ledger u steps starts none c
  turns : c.TakesTurns steps events
  admits : ∀ domain i, .integrate domain i ∈ events → u.Admits domain i
  old : ∀ n id, starts n id → n < c.begun

theorem Ahead.next (trains : u.Trains steps) {event : Event H F} {later : List (Event H F)}
    (ahead : Ahead u steps starts c (event :: later)) :
    Ahead u steps starts (c.happen steps event) later where
  ledger := ahead.ledger.happen trains ahead.turns.1
    (fun domain i same => ahead.admits domain i (List.mem_cons.mpr (.inl same.symm)))
    fun _ _ id began => absurd (ahead.old _ id began) (Nat.lt_irrefl _)
  turns := ahead.turns.2
  admits domain i member := ahead.admits domain i (List.mem_cons_of_mem _ member)
  old n id began := Nat.lt_of_lt_of_le (ahead.old n id began) (c.begun_happen steps event)

/-- What every event keeps while the ledger is kept is so at the end of the run, and the ledger is
kept itself. -/
theorem Ahead.run (trains : u.Trains steps) {events : List (Event H F)} {I : Record H F → Prop}
    (ahead : Ahead u steps starts c events) (start : I c)
    (keeps : ∀ {c event}, Ledger u steps starts none c → c.Grants event → I c →
      I (c.happen steps event)) :
    Ledger u steps starts none (c.after steps events) ∧ I (c.after steps events) := by
  have ends : Ahead u steps starts (c.after steps events) [] ∧ I (c.after steps events) :=
    foldl_induction (motive := fun (v : Record H F) later => Ahead u steps starts v later ∧ I v)
      ⟨ahead, start⟩ fun _ _ _ ⟨ahead, holds⟩ =>
        ⟨ahead.next trains, keeps ahead.ledger ahead.turns.1 holds⟩
  exact ⟨ends.1.ledger, ends.2⟩

theorem after (trains : u.Trains steps) (ledger : Ledger u steps starts none c)
    {events : List (Event H F)} (turns : c.TakesTurns steps events)
    (admits : ∀ domain i, .integrate domain i ∈ events → u.Admits domain i)
    (old : ∀ n id, starts n id → n < c.begun) :
    Ledger u steps starts none (c.after steps events) :=
  (Ahead.run trains ⟨ledger, turns, admits, old⟩ (I := fun _ => True) trivial
    fun _ _ _ => trivial).1

/-- Of jobs that are yet to begin anything may be supposed. -/
theorem renew {starts' : Nat → String → Prop} (ledger : Ledger u steps starts out c)
    (new : ∀ n id, starts' n id → c.begun ≤ n) : Ledger u steps starts' out c := by
  have never {n : Nat} (before : n < c.begun) (id : String) : ¬ starts' n id :=
    fun began => absurd before (Nat.not_lt_of_le (new n id began))
  refine { ledger with
    standing := fun w member => ?_
    failed := fun e member id began => absurd began (never (ledger.done e member) id) }
  have before := ledger.waiting w member
  cases ledger.standing w member with
  | errand agent goes => exact .errand agent goes
  | queued agent known later => exact .queued agent known (never before)
  | seated inStep busy begun started goes =>
    exact .seated inStep busy begun (fun g began => absurd began (never before g)) goes

end Ledger

/-- The ledger of a desk at which no flow has been started. -/
theorem ledger_new {d : Desk H} (sound : d.Sound u) (new : ∀ id : String, d.flows[id]? = none) :
    Ledger u steps (fun _ _ => False) none { state := d } where
  moments := List.forall_mem_singleton.mpr ⟨sound, .refl _⟩
  waiting := by rintro w ⟨⟩
  done := by rintro e ⟨⟩
  since := by rintro w ⟨⟩
  standing := by rintro w ⟨⟩
  apart := .nil
  away := by rintro w ⟨⟩
  manned id busy := by
    obtain ⟨f, here⟩ := busy.flow
    cases (new id).symm.trans here
  shown := by rintro id p ⟨⟩
  gone := by rintro e ⟨⟩
  single := .nil
  begins id listed := by
    obtain ⟨f, here⟩ := sound.numbered.listed id listed
    cases (new id).symm.trans here
  failed := by rintro e ⟨⟩

theorem ledger_opened (u : Practice H) (steps : Steps H F) (handled : Std.ExtTreeSet String)
    (now : Instant) :
    Ledger u steps (fun _ _ => False) none (Record.opened (F := F) handled now) :=
  ledger_new (sound_opened (F := F) u handled now) fun id => by simp

end Onboarding.Desk
