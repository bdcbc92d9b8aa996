import Onboarding.Proofs.Registry.Settling
import Onboarding.Proofs.Registry.Uniqueness

/-! Registries at a standstill. As long as no integration crashes, an entry is in the middle of a
setup only while its integration is being asked, so once nothing is asked every entry can be
reloaded. A crash takes that back: it ends the setup and leaves the entry in progress, and no
reload leads out of it. -/
namespace Onboarding

theorem Entry.apply_phase (old : Entry) (u : Entry.Update) (now : Instant) :
    (old.apply u now).1.phase = old.phase := by
  unfold apply
  split <;> rfl

namespace Registry

/-- Only an entry that is added may be in a phase that no entry of its id was in. -/
theorem Mutation.Step.phase {c planned : Catalog} {m : Mutation} (step : m.Step c planned)
    (filed : c.Filed) {id : String} {e : Entry} (held : planned.get? id = some e) :
    m = .add e ∨ ∃ old, c.get? id = some old ∧ e.phase = old.phase := by
  rcases step.origin filed held with added | ⟨old, before, rfl | ⟨u, now, -, changed⟩⟩
  · exact .inl added
  · exact .inr ⟨e, before, rfl⟩
  · have phase := old.apply_phase u now
    rw [changed] at phase
    exact .inr ⟨old, before, phase⟩

variable {A B : String → Prop} {r s : Registry} {id : String}

theorem Rests.same (rests : r.Rests A) (same : s.toCatalog = r.toCatalog) : s.Rests A :=
  ⟨same ▸ rests.filed, fun id e held => rests.entries id e (same ▸ held)⟩

/-- Entries are added in a settled phase. -/
def AddsSettled : Change → Prop
  | .mutate (.add e) => e.phase.settled = true
  | _ => True

theorem Rests.change (rests : r.Rests A) {c : Change} (settled : AddsSettled c) :
    (c.apply r).Rests A := by
  rcases c.catalog r with same | ⟨m, rfl, step⟩
  · exact rests.same same
  refine ⟨step.filed rests.filed, fun id e held => ?_⟩
  rcases step.phase rests.filed held with rfl | ⟨old, before, phase⟩
  · exact .inl settled
  · exact phase ▸ rests.entries id old before

/-- Where a job gets to without the outside, what it leaves in setup is accounted for or is what it
asks for, and it goes on as it should. -/
theorem mends_advance {α : Type} {j : Job Registry .hosting α} (mends : Mends A j r) :
    match j.advance r with
    | (.waiting q next, s) => Mends A (.ask (.outside q) next) s
    | (_, s) => s.Rests A := by
  induction j generalizing r with
  | done => exact mends
  | crash => exact mends
  | ask q next ih =>
    match q with
    | .read => exact ih r mends
    | .write s => exact ih () mends
    | .outside q => exact mends

theorem Mends.weaken {α : Type} {j : Job Registry .hosting α} (mends : Mends A j r)
    (weaker : ∀ other, A other → B other) : Mends B j r := by
  induction j generalizing r with
  | done => exact Rests.weaken mends weaker
  | crash => exact Rests.weaken mends weaker
  | ask q next ih =>
    match q with
    | .read => exact ih r mends
    | .write s => exact ih () mends
    | .outside q => exact ⟨mends.1.weaken fun other => .imp_left (weaker other), mends.2⟩

namespace Course

/-- Whether the integration of the entry of an id is being asked to set it up. -/
def Asks (f : Course) (id : String) : Prop := ∃ job ∈ f.waiting, job.request.asks id

/-- A job that waits settles what it waits for, or abandons it in a crash. -/
def Mending (job : Suspended Registry .hosting) : Prop :=
  ∀ answer, (job.request.Crashes answer → Abandons (job.next answer)) ∧
    (¬ job.request.Crashes answer → ∀ s, (s.Rests fun _ => True) →
      Mends (fun id => s.InSetup id ∧ ¬ job.request.asks id) (job.next answer) s)

/-- Every setup in progress is asked for, and every job that waits is mending. -/
structure Sound (f : Course) : Prop where
  rests : f.state.Rests f.Asks
  waiting : ∀ job ∈ f.waiting, Mending job

theorem sound_run {f : Course} {j : Job Registry .hosting Unit} (mends : Mends f.Asks j f.state)
    (waiting : ∀ job ∈ f.waiting, Mending job) : Sound (f.run j) := by
  have advanced := mends_advance mends
  unfold Floor.run
  rcases stopped : j.advance f.state with ⟨stage, s⟩
  rw [stopped] at advanced
  cases stage with
  | done => exact ⟨advanced, waiting⟩
  | crashed => exact ⟨advanced, waiting⟩
  | waiting q next =>
    refine ⟨advanced.1.weaken ?_, ?_⟩
    · rintro other (⟨job, member, asks⟩ | asks)
      · exact ⟨job, List.mem_append_left _ member, asks⟩
      · exact ⟨⟨q, next⟩, List.mem_append_right _ (List.mem_singleton.mpr rfl), asks⟩
    · intro job member
      rcases List.mem_append.mp member with before | new
      · exact waiting job before
      · cases List.mem_singleton.mp new
        exact advanced.2

/-- No integration crashes, entries are added in a settled phase, and the registry is not made
anew. -/
def Calm : Event → Prop
  | .change c => AddsSettled c
  | .errand _ => True
  | .reply _ verdict => ∀ x, verdict ≠ .crashed x
  | .restart _ => False

theorem tell_calm {verdict : Verdict} (calm : ∀ x, verdict ≠ .crashed x) {q : Hosting}
    {answer : q.Reply} (told : tell verdict q = some answer) : ¬ q.Crashes answer := by
  cases q with
  | setUp e =>
    cases told
    rintro ⟨x, crashed⟩
    exact calm x crashed
  | awaitTurn => exact fun crashes => crashes

theorem Sound.happen {f : Course} (sound : f.Sound) {event : Event} (calm : Calm event) :
    (f.happen event).Sound := by
  cases event with
  | change c => exact ⟨sound.rests.change calm, sound.waiting⟩
  | errand errand =>
    refine sound_run ?_ sound.waiting
    exact mends_bind (errand.mends sound.rests) fun _ _ _ rests => rests
  | restart => exact calm.elim
  | reply place verdict =>
    simp only [Course.happen, Floor.reply]
    split
    · exact sound
    rename_i job found
    split
    · exact sound
    rename_i answer told
    have mends := (sound.waiting job (List.mem_of_getElem? found) answer).2 (tell_calm calm told)
      f.state (sound.rests.weaken fun _ _ => trivial)
    have others : ∀ other ∈ f.waiting.eraseIdx place, Mending other := fun other member =>
      sound.waiting other (List.mem_of_mem_eraseIdx member)
    refine sound_run (mends.weaken ?_) others
    rintro id ⟨⟨e, held, phase⟩, notHere⟩
    rcases sound.rests.entries id e held with settled | ⟨_, other, member, asks⟩
    · rw [phase] at settled
      cases settled
    · refine ⟨other, ?_, asks⟩
      obtain ⟨at', inBounds, rfl⟩ := List.getElem_of_mem member
      refine List.mem_eraseIdx_iff_getElem.mpr ⟨at', inBounds, ?_, rfl⟩
      rintro rfl
      rw [List.getElem?_eq_getElem inBounds] at found
      cases found
      exact notHere asks

theorem Sound.after {f : Course} (sound : f.Sound) {events : List Event}
    (calm : ∀ event ∈ events, Calm event) : (f.after events).Sound := by
  refine (foldl_induction
    (motive := fun (g : Course) later => g.Sound ∧ ∀ event ∈ later, Calm event)
    ⟨sound, calm⟩ fun g event later ⟨sound, calm⟩ => ?_).1
  obtain ⟨now, calm⟩ := List.forall_mem_cons.mp calm
  exact ⟨sound.happen now, calm⟩

end Course

/-- While a job on an entry waits, nothing else is done to that entry. -/
def untouched (id : String) : Terms Registry .hosting where
  finds _ _ s t := t.get? id = s.get? id
  writes _ _ _ := True

/-- A reload of the entry is not refused by its lifecycle. -/
def Reloadable (r : Registry) (id : String) : Prop :=
  (Action.reload id).run.Ensures (untouched id)
    (fun _ ended _ => ∀ refusal, ended ≠ .ok (.error (.refused refusal))) [] r

/-- A reload of the entry is refused by its lifecycle. -/
def Wedged (r : Registry) (id : String) : Prop :=
  (Action.reload id).run.Ensures (untouched id)
    (fun _ ended _ => ∃ refusal, ended = .ok (.error (.refused refusal))) [] r

namespace Action

variable {α : Type} {post : Post Registry .hosting (Except RegistryError α)}
  {heard : List (Heard Registry .hosting)} {old : Entry} {target : Phase} {reason : Option String}
  {T : Terms Registry .hosting} {f : Unit → Action α} {a : Action α}

theorem ensures_enter (held : r.get? id = some old) (leads : old.phase.leadsTo target = true)
    (writes : T.writes heard r { r with toCatalog := r.revise { old with phase := target, reason } })
    (entered : (f ()).run.Ensures T post heard
      { r with toCatalog := r.revise { old with phase := target, reason } }) :
    (enter id target reason >>= f).run.Ensures T post heard r := by
  have result : r.enter id target reason =
      .ok { r with toCatalog := r.revise { old with phase := target, reason } } := by
    simp [Registry.enter, held, Entry.enter, Phase.move, leads]
  rw [enter, bind_assoc, Job.ensures_run_get_bind, result]
  exact ⟨writes, entered⟩

theorem ensures_enter_refused (held : r.get? id = some old)
    (refused : old.phase.leadsTo target = false)
    (ends : post heard (.ok (.error (.refused ⟨old.phase, target⟩))) r) :
    (enter id target reason >>= f).run.Ensures T post heard r := by
  have result : r.enter id target reason = .error (.refused ⟨old.phase, target⟩) := by
    simp [Registry.enter, held, Entry.enter, Phase.move, refused]
  rw [enter, bind_assoc, Job.ensures_run_get_bind, result]
  exact ends

/-- An action comes to what it comes to in its turn, which it waits for while another one has it. -/
theorem ensures_inTurn
    (acts : ∀ heard' s, (r.settingUp = false ∧ heard' = heard ∧ s = r ∨
        r.settingUp = true ∧ T.finds .awaitTurn () r s ∧
          heard' = heard ++ [⟨.awaitTurn, (), s⟩]) →
      T.writes heard' s { s with settingUp := true } ∧
        a.run.Ensures T (Job.beforeLast T (modify ({ · with settingUp := false })) post) heard'
          { s with settingUp := true }) :
    (inTurn a).run.Ensures T post heard r := by
  have turn (heard' : List (Heard Registry .hosting)) (s : Registry)
      (acts : T.writes heard' s { s with settingUp := true } ∧
        a.run.Ensures T (Job.beforeLast T (modify ({ · with settingUp := false })) post) heard'
          { s with settingUp := true }) :
      Job.Ensures T post (.ask (.write { s with settingUp := true }) fun _ =>
        a.run.closing (modify ({ · with settingUp := false }))) heard' s :=
    ⟨acts.1, Job.ensures_closing.mpr acts.2⟩
  change (if r.settingUp = true then _ else _ : Action α).run.Ensures T post heard r
  cases busy : r.settingUp with
  | true => exact fun _ s found => turn _ s (acts _ s (.inr ⟨busy, found, rfl⟩))
  | false => exact turn heard r (acts heard r (.inl ⟨busy, rfl, rfl⟩))

theorem ensures_enter_bind (held : r.get? id = some old) (here : old.id = id)
    (leads : old.phase.leadsTo target = true)
    (entered : ∀ (s : Registry) e, s.get? id = some e → e.id = id → e.phase = target →
      (f ()).run.Ensures (untouched id) post heard s) :
    (enter id target reason >>= f).run.Ensures (untouched id) post heard r :=
  ensures_enter held leads trivial
    (entered _ { old with phase := target, reason } (by simp [here]) here rfl)

/-- A reload comes to what it comes to in its turn, from any state where the entry is as it was
when the reload was asked for. -/
theorem ensures_reload {Q : Except Crash (Except RegistryError Unit) → Prop}
    (acts : ∀ heard (s : Registry), s.get? id = r.get? id →
      (unloadNow id >>= fun _ => setUpNow id).run.Ensures (untouched id)
        (fun _ ended _ => Q ended) heard s) :
    (reload id).run.Ensures (untouched id) (fun _ ended _ => Q ended) [] r := by
  refine ensures_inTurn fun heard s reached => ⟨trivial, ?_⟩
  have same : s.get? id = r.get? id := by
    rcases reached with ⟨_, _, rfl⟩ | ⟨_, found, _⟩
    · rfl
    · exact found
  refine Job.ensures_imp (fun _ ended _ ends => ⟨trivial, ?_⟩)
    (acts heard { s with settingUp := true } same)
  cases ended <;> exact ends

end Action

open Onboarding.Registry.Action in
theorem reloadable {e : Entry} (held : r.get? id = some e) (here : e.id = id)
    (settled : e.phase.settled = true) : r.Reloadable id := by
  refine ensures_reload fun heard s same => ?_
  have unloads : e.phase.leadsTo .unloadInProgress = true := by
    revert settled
    cases e.phase <;> decide
  rw [unloadNow, bind_assoc]
  refine ensures_enter_bind (same.trans held) here unloads fun s e held here phase => ?_
  refine ensures_enter_bind held here (by rw [phase]; rfl) fun s e held here phase => ?_
  rw [setUpNow, Job.ensures_run_get_bind, held]
  dsimp only
  split
  · rintro refusal ⟨⟩
  refine ensures_enter_bind held here (by rw [phase]; rfl) fun s f held here phase => ?_
  have loads (heard : List (Heard Registry .hosting)) (s : Registry) (held : s.get? id = some f) :
      (Action.enter id .loaded none).run.Ensures (untouched id)
        (fun _ ended _ => ∀ refusal, ended ≠ .ok (.error (.refused refusal))) heard s := by
    rw [← bind_pure (Action.enter id .loaded none)]
    refine ensures_enter_bind held here (by rw [phase]; rfl) fun s e _ _ _ => ?_
    rintro refusal ⟨⟩
  change (if e.domain ∈ s.handled then _ else _ : Action Unit).run.Ensures (untouched id) _ heard s
  split
  · intro verdict t same
    have held : t.get? id = some f := Eq.trans same held
    cases verdict with
    | ready => exact loads _ t held
    | failed reason =>
      refine ensures_enter_bind held here (by rw [phase]; rfl) fun s e _ _ _ => ?_
      rintro refusal ⟨⟩
    | crashed x => rintro refusal ⟨⟩
  · exact loads heard s held

open Onboarding.Registry.Action in
theorem wedged (wedges : r.InSetup id) : r.Wedged id := by
  obtain ⟨e, held, phase⟩ := wedges
  refine ensures_reload fun heard s same => ?_
  rw [unloadNow, bind_assoc]
  exact ensures_enter_refused (same.trans held) (by rw [phase]; rfl) ⟨_, rfl⟩

namespace Course

/-- A job that is told of a crash of what it asks for changes no entry. -/
theorem Sound.crash {f : Course} (sound : f.Sound) {place : Nat}
    {job : Suspended Registry .hosting} (found : f.waiting[place]? = some job) {id : String}
    (asks : job.request.asks id) (x : Crash) :
    (f.happen (.reply place (.crashed x))).state.toCatalog = f.state.toCatalog := by
  obtain ⟨q, next⟩ := job
  cases q with
  | awaitTurn => exact asks.elim
  | setUp e =>
    have mending := (sound.waiting _ (List.mem_of_getElem? found) (Verdict.crashed x)).1 ⟨x, rfl⟩
    obtain ⟨y, s, ends, same⟩ := mending f.state
    simp only [Course.happen, Floor.reply, found, tell, Floor.run, ends]
    exact same

end Course

/-- From every moment at which all entries are settled, as long as no integration crashes, an entry
is settled and can be reloaded, or it is in a setup that its integration is being asked for. A
crash of the integration leaves that entry in its setup, and its reload is refused. -/
theorem settled_unless_crashed (disk : Disk) (handled : Std.ExtTreeSet String)
    (before : List Event) :
    ∀ r ∈ ((Course.opened disk handled).after before).seen,
      (∀ e ∈ r.toList, e.phase.settled = true) →
      ∀ events, (∀ event ∈ events, Course.Calm event) →
        let f := Course.after { state := r } events
        (∀ e ∈ f.state.toList, e.phase.settled = true ∧ f.state.Reloadable e.id ∨
          e.phase = .setupInProgress ∧ f.Asks e.id) ∧
        ∀ place job id x, f.waiting[place]? = some job → job.request.asks id →
          f.state.InSetup id →
            let g := f.happen (.reply place (.crashed x))
            g.state.InSetup id ∧ g.state.Wedged id := by
  intro r seen settled events calm f
  have filed := (upkeep_filed.opened trivial (Course.throughout_true _ before) r seen).1
  have start : Course.Sound { state := r } :=
    ⟨⟨filed, fun id e held => .inl (settled e (Catalog.mem_toList.mpr ⟨id, held⟩))⟩,
      fun job member => absurd member List.not_mem_nil⟩
  have sound : f.Sound := start.after calm
  constructor
  · intro e member
    have held := sound.rests.filed.mem_toList.mp member
    rcases sound.rests.entries e.id e held with settled | asked
    · exact .inl ⟨settled, reloadable held rfl settled⟩
    · exact .inr asked
  · intro place job id x found asks inSetup g
    have same : g.state.toCatalog = f.state.toCatalog := sound.crash found asks x
    obtain ⟨e, held, phase⟩ := inSetup
    have inSetup : g.state.InSetup id := ⟨e, by rw [same]; exact held, phase⟩
    exact ⟨inSetup, wedged inSetup⟩

/-- The first lamp, of an integration that takes part in its setup. -/
def handledLamp : Course :=
  (Course.opened {} ∅).after [.change (.handle "light"), .change (.mutate (.add lampA))]

theorem handledLamp_settled : ∀ e ∈ handledLamp.state.toList, e.phase.settled = true :=
  List.forall_mem_singleton.mpr rfl

theorem lamp_fails :
    let f := Course.after { state := handledLamp.state }
      [.errand (.setUp "a"), .reply 0 (.failed "no")]
    ∀ e ∈ f.state.toList, e.phase = .setupError ∧ f.state.Reloadable e.id := by
  intro f e member
  have calm : ∀ event ∈ [Event.errand (.setUp "a"), .reply 0 (.failed "no")], Course.Calm event := by
    simp [Course.Calm]
  have rests := (settled_unless_crashed {} ∅ _ _ (List.mem_cons_self ..) handledLamp_settled
    [.errand (.setUp "a"), .reply 0 (.failed "no")] calm).1 e member
  cases List.mem_singleton.mp member
  exact ⟨rfl, (rests.resolve_right fun ⟨phase, _⟩ => nomatch phase).2⟩

/-- A crash in the only setup there is: nothing waits any more, and the lamp is left in progress. -/
theorem lamp_wedged :
    let f := Course.after { state := handledLamp.state }
      [.errand (.setUp "a"), .reply 0 (.crashed ⟨some "boom"⟩)]
    f.waiting.length = 0 ∧ f.state.InSetup "a" ∧ f.state.Wedged "a" := by
  have inSetup : (Course.after { state := handledLamp.state }
      [.errand (.setUp "a"), .reply 0 (.crashed ⟨some "boom"⟩)]).state.InSetup "a" :=
    ⟨{ lampA with phase := .setupInProgress }, rfl, rfl⟩
  exact ⟨rfl, inSetup, wedged inSetup⟩

end Registry

end Onboarding
