import Onboarding.Proofs.Flow.Commit
import Onboarding.Proofs.Flow.Conduct
import Onboarding.Proofs.Flow.Repairs
import Onboarding.Proofs.Flow.Turns

/-! Options flows that end in new options. The flow is ended first; then its entry is given the
options, if it is still registered and has other ones, and nothing else is done. Whatever has been
done to the entry in the meantime, it is the entry as it is then that is changed. -/
namespace Onboarding

namespace Entry

/-- The entry after its options were replaced. -/
def retuned (e : Entry) (options : Data) (now : Instant) : Entry :=
  { e with options, modifiedAt := now }

theorem apply_options (e : Entry) (options : Data) (now : Instant) :
    e.apply { options := some options } now =
      if e.options.same options then (e, false) else (e.retuned options now, true) := by
  cases same : e.options.same options with
  | true => simp [apply, Update.changes, same]
  | false => simp [apply, Update.changes, Update.replaced, same, retuned]

end Entry

namespace Registry

variable {r t u : Registry} {id : String} {options : Data} {now now' : Instant}

/-- What becomes of the registry, and what it answers, where an entry is given options. -/
inductive Retunes (r : Registry) (id : String) (options : Data) (now : Instant) :
    Registry → Except RegistryError Bool → Prop where
  | written {e : Entry} (held : r.get? id = some e) (differs : e.options.same options = false)
    (writable : r.disk.writable = true) :
    Retunes r id options now (r.rewritten (e.retuned options now)) (.ok true)
  | same {e : Entry} (held : r.get? id = some e) (same : e.options.same options = true) :
    Retunes r id options now r (.ok false)
  | unsaved {e : Entry} (held : r.get? id = some e) (differs : e.options.same options = false)
    (broken : r.disk.writable = false) :
    Retunes r id options now { r with toCatalog := r.revise (e.retuned options now) }
      (.error (.storage .io))
  | gone (absent : r.get? id = none) : Retunes r id options now r (.error (.notFound id))

theorem retunes_update (filed : r.Filed) (id : String) (options : Data) (now : Instant) :
    r.Retunes id options now (r.update id { options := some options } now).1
      (r.update id { options := some options } now).2 := by
  cases held : r.get? id with
  | none =>
    rw [r.update_absent held]
    exact .gone held
  | some e =>
    obtain rfl := filed id e held
    have applied := e.apply_options options now
    cases same : e.options.same options with
    | true =>
      rw [same, if_pos rfl] at applied
      rw [r.update_unchanged held applied]
      exact .same held same
    | false =>
      rw [same, if_neg Bool.false_ne_true] at applied
      rw [r.update_changed held applied, Catalog.amend_same (by rfl)]
      cases writable : r.disk.writable with
      | true =>
        rw [r.saved_written writable]
        exact .written held same writable
      | false =>
        rw [saved_broken { r with toCatalog := r.revise (e.retuned options now) } writable]
        exact .unsaved held same writable

/-- The entry has the options, and is otherwise as it was but for the time of the change; all other
entries are as they were. -/
theorem Retunes.entries (filed : r.Filed) {changed : Bool}
    (retunes : r.Retunes id options now t (.ok changed)) :
    (∃ e f, r.get? id = some e ∧ t.get? id = some f ∧ f.options.same options = true ∧
      f = { e with options := f.options, modifiedAt := f.modifiedAt }) ∧
    ∀ other, other ≠ id → t.get? other = r.get? other := by
  cases retunes with
  | written held differs writable =>
    rename_i e
    obtain rfl := filed id e held
    refine ⟨⟨e, e.retuned options now, held, r.get?_rewritten (e.retuned options now),
      options.same_refl, rfl⟩, fun other apart => ?_⟩
    exact r.get?_rewritten_of_ne (e := e.retuned options now) apart
  | same held same => exact ⟨⟨_, _, held, held, same, rfl⟩, fun _ _ => rfl⟩

/-- An entry that was given options is not changed by giving it these again. -/
theorem Retunes.again (filed : r.Filed) {changed : Bool} {answer : Except RegistryError Bool}
    (retunes : r.Retunes id options now t (.ok changed))
    (further : t.Retunes id options now' u answer) : u = t ∧ answer = .ok false := by
  obtain ⟨⟨_, f, _, held, same, _⟩, _⟩ := retunes.entries filed
  have alike {e : Entry} (there : t.get? id = some e) : e.options.same options = true := by
    cases held.symm.trans there
    exact same
  cases further with
  | same => exact ⟨rfl, rfl⟩
  | written there differs => cases (alike there).symm.trans differs
  | unsaved there differs => cases (alike there).symm.trans differs
  | gone absent => cases held.symm.trans absent

end Registry

namespace Desk

open Job

variable {H : Type} {F : Signature} {steps : Steps H F} {id entryId : String} {input : Data}
  {d s t : Desk H} {heard later : List (Heard (Desk H) (.desk F))}

/-- What a step has come to ends its flow. -/
def Final : Except StepError Outcome → Prop
  | .ok (.form _) => False
  | .error (.unknownStep _) => False
  | .error (.registry _) => False
  | _ => True

/-- How an options flow is answered by what its step has come to on a desk, and the registry then. -/
inductive Resolves (id entryId : String) (s : Desk H) :
    Except StepError Outcome → Except FlowError FlowResult.Body → Registry → Prop where
  | created {title : String} {data options : Data} {r : Registry} {changed : Bool}
    (retunes : s.registry.Retunes entryId data s.now r (.ok changed)) :
    Resolves id entryId s (.ok (.create title data options))
      (.ok (.created title data options (s.contextOf id).version none)) r
  | failed {title : String} {data options : Data} {r : Registry} {e : RegistryError}
    (retunes : s.registry.Retunes entryId data s.now r (.error e)) :
    Resolves id entryId s (.ok (.create title data options)) (.error (.registry e)) r
  | ended (reason : String) :
    Resolves id entryId s (.ok (.abort reason)) (.ok (.aborted reason)) s.registry
  | aborted (reason : String) :
    Resolves id entryId s (.error (.abort reason)) (.ok (.aborted reason)) s.registry
  | shown (p : Page) : Resolves id entryId s (.ok (.form p)) (.ok (.form p)) s.registry
  | unknown (step : String) :
    Resolves id entryId s (.error (.unknownStep step)) (.error (.unknownStep step)) s.registry
  | stuck (e : RegistryError) :
    Resolves id entryId s (.error (.registry e)) (.error (.registry e)) s.registry

/-- A step of a flow, with its requests answered. -/
def stepWork (steps : Steps H F) (id step : String) (input : Option Data) (memory : H) :
    Work H F (Except StepError Outcome × H) :=
  Prog.interpret (S := .step F) (Work.answer id) (steps step input memory)

/-- How a call has ended that took a step of an options flow. -/
inductive Taken (work : Work H F (Except StepError Outcome × H)) (id entryId : String)
    (heard : List (Heard (Desk H) (.desk F))) (d : Desk H) :
    Post (Desk H) (.desk F) (Except FlowError FlowResult) where
  | resolved {later : List (Heard (Desk H) (.desk F))} {o : Except StepError Outcome} {memory : H}
    {s t : Desk H} {answer : Except FlowError FlowResult.Body}
    (reaches : work.Reaches heard d later (.ok (o, memory)) s)
    (resolves : Resolves id entryId s o answer t.registry) (drops : Final o → t.Dropped id) :
    Taken work id entryId heard d later (.ok (answer.map (Action.result (s.contextOf id)))) t
  | crashed {later : List (Heard (Desk H) (.desk F))} {x : Crash} {s t : Desk H}
    (reaches : work.Reaches heard d later (.error x) s) (registry : t.registry = s.registry) :
    Taken work id entryId heard d later (.error x) t

/-- The surroundings may do anything but misplace an entry or a flow. -/
def unruly (H : Type) (F : Signature) : Terms (Desk H) (.desk F) where
  finds _ _ s t := t.InPlace ∧ Advanced .any s t
  writes _ _ _ := True

theorem ensures_stepWork (kept : d.InPlace) (step : String) (input : Option Data) (memory : H) :
    (stepWork steps id step input memory).Ensures (unruly H F) (fun later ended s =>
      (stepWork steps id step input memory).Reaches heard d later ended s ∧ s.InPlace ∧
        Advanced .any d s) heard d := by
  have always : Prog.Ends (fun _ => True) (steps step input memory) :=
    Prog.ends_of_forall (fun _ => trivial) _
  refine ensures_reaches (ensures_mono (fun _ => True) ?_ ?_ ?_ trivial
    (conducted_program (p := ⟨0, none⟩) (Conduct.kept_any steps) always kept))
  · exact fun _ _ _ _ _ found => ⟨⟨trivial, found⟩, trivial⟩
  · exact fun _ _ _ _ _ => ⟨trivial, trivial⟩
  · exact fun _ _ _ _ ended => ended.1

/-- The flow is an options flow of the entry. -/
def Tunes (d : Desk H) (id entryId : String) : Prop :=
  ∃ f, d.flows[id]? = some f ∧ f.kind = .options ∧ f.context.entryId = some entryId

theorem Tunes.advance {κ : Conduct H} (tunes : d.Tunes id entryId) (advanced : Advanced κ d t) :
    t.Tunes id entryId := by
  obtain ⟨f, here, kind, entry⟩ := tunes
  obtain ⟨g, there, same, _⟩ := advanced.flows id f here
  refine ⟨g, there, same.kind.trans kind, ?_⟩
  rw [same.context]
  exact entry

theorem Tunes.contextOf (tunes : d.Tunes id entryId) : (d.contextOf id).entryId = some entryId := by
  obtain ⟨f, here, _, entry⟩ := tunes
  rw [Desk.contextOf, here]
  exact entry

/-- What has come of what a step has come to. -/
def resolved (id entryId : String) (o : Except StepError Outcome)
    (heard : List (Heard (Desk H) (.desk F))) (s : Desk H) :
    Post (Desk H) (.desk F) (Except FlowError FlowResult) := fun later ended t =>
  later = heard ∧ ∃ answer, ended = .ok (answer.map (Action.result (s.contextOf id))) ∧
    Resolves id entryId s o answer t.registry ∧ (Final o → t.Dropped id)

theorem ensures_settle_resolved (filed : s.registry.Filed) (tunes : s.Tunes id entryId)
    (o : Except StepError Outcome) (memory : H) :
    (Action.settle id .options (o, memory) : Action H F FlowResult).run.Ensures (unruly H F)
      (resolved id entryId o heard s) heard s := by
  have context : (s.modifyFlow id ({ · with memory })).contextOf id = s.contextOf id :=
    contextOf_modifyFlow s id fun _ => rfl
  have closed : ((s.modifyFlow id ({ · with memory })).close id).Dropped id := by
    obtain ⟨f, here, _⟩ := tunes
    exact dropped_close ⟨{ f with memory }, by rw [flow_modifyFlow_self, here]; rfl⟩
  match o with
  | .ok (.form p) =>
    refine ⟨trivial, trivial, rfl, .ok (.form p), ?_, .shown p, False.elim⟩
    rw [← context]
    rfl
  | .ok (.abort reason) =>
    refine ⟨trivial, trivial, rfl, .ok (.aborted reason), ?_, .ended reason, fun _ => closed⟩
    rw [← context]
    rfl
  | .ok (.create title data options) =>
    refine Action.ensures_settle_create trivial trivial ?_
    have updates := Registry.retunes_update filed entryId data s.now
    refine ensures_iff_obeys.mpr
      (Action.obeys_storeOptions_entry tunes.contextOf rfl trivial ?_ ?_)
    · intro changed stored
      change (s.registry.update entryId { options := some data } s.now).2 = .ok changed at stored
      rw [stored] at updates
      exact ⟨rfl, _, rfl, .created updates, fun _ => closed.placed _⟩
    · intro e failed
      change (s.registry.update entryId { options := some data } s.now).2 = .error e at failed
      rw [failed] at updates
      exact ⟨rfl, _, rfl, .failed updates, fun _ => closed.placed _⟩
  | .error (.abort reason) =>
    refine ⟨trivial, trivial, rfl, .ok (.aborted reason), ?_, .aborted reason, fun _ => closed⟩
    rw [← context]
    rfl
  | .error (.unknownStep step) =>
    exact ⟨trivial, rfl, .error (.unknownStep step), rfl, .unknown step, False.elim⟩
  | .error (.registry e) =>
    exact ⟨trivial, rfl, .error (.registry e), rfl, .stuck e, False.elim⟩

theorem ensures_takeStep_taken (kept : d.InPlace) (tunes : d.Tunes id entryId) {f : Flow H}
    (here : d.flows[id]? = some f) (step : String) (input : Option Data) :
    (Action.takeStep steps id step input).run.Ensures (unruly H F)
      (Taken (stepWork steps id step input f.memory) id entryId heard d) heard d := by
  have kind : f.kind = .options := by
    obtain ⟨g, there, kind, _⟩ := tunes
    cases here.symm.trans there
    exact kind
  rw [Action.ensures_takeStep_iff here]
  refine ensures_imp ?_ (ensures_stepWork kept step input f.memory)
  rintro later ended s ⟨reaches, there, advanced⟩
  cases ended with
  | error x => exact .crashed reaches rfl
  | ok r =>
    obtain ⟨o, memory⟩ := r
    change (Action.settle id f.kind (o, memory)).run.Ensures _ _ later s
    rw [kind]
    refine ensures_imp ?_ (ensures_settle_resolved there.filed (tunes.advance advanced) o memory)
    rintro _ ended t ⟨rfl, answer, rfl, resolves, drops⟩
    exact .resolved reaches resolves drops

/-- What the registry and the flow in progress show is all that counts of the end. -/
theorem Taken.aside {work : Work H F (Except StepError Outcome × H)} {u : Desk H}
    {ended : Except Crash (Except FlowError FlowResult)}
    (taken : Taken work id entryId heard d later ended t) (registry : u.registry = t.registry)
    (drops : t.Dropped id → u.Dropped id) : Taken work id entryId heard d later ended u := by
  cases taken with
  | resolved reaches resolves dropped =>
    exact .resolved reaches (registry ▸ resolves) fun final => drops (dropped final)
  | crashed reaches same => exact .crashed reaches (registry.trans same)

/-- How a submit to an options flow has ended that was made at a desk. -/
inductive Answered (steps : Steps H F) (id entryId : String) (input : Data) (d : Desk H) :
    Post (Desk H) (.desk F) (Except FlowError FlowResult) where
  | unlisted {heard : List (Heard (Desk H) (.desk F))} {t : Desk H} (unlisted : id ∉ d.listed)
    (registry : t.registry = d.registry) :
    Answered steps id entryId input d heard (.ok (.error (.unknownFlow id))) t
  | refused {heard : List (Heard (Desk H) (.desk F))} {s t : Desk H} {e : FlowError}
    (turn : HasTurn (unruly H F) d id heard s)
    (unanswerable : ∀ flow clean,
      ¬ Action.Answerable (s.modifyFlow id ({ · with busy := true })) id input flow clean)
    (registry : t.registry = s.registry) :
    Answered steps id entryId input d heard (.ok (.error e)) t
  | taken {heard later : List (Heard (Desk H) (.desk F))} {s t : Desk H} {flow : Flow H}
    {clean : Data} {ended : Except Crash (Except FlowError FlowResult)}
    (turn : HasTurn (unruly H F) d id heard s)
    (answerable : Action.Answerable (s.modifyFlow id ({ · with busy := true })) id input flow clean)
    (taken : Taken (stepWork steps id flow.step (some clean) flow.memory) id entryId heard
      (s.modifyFlow id ({ · with busy := true })) later ended t) :
    Answered steps id entryId input d later ended t

theorem Answered.aside {u : Desk H} {ended : Except Crash (Except FlowError FlowResult)}
    (answered : Answered steps id entryId input d later ended t)
    (registry : u.registry = t.registry) (drops : t.Dropped id → u.Dropped id) :
    Answered steps id entryId input d later ended u := by
  cases answered with
  | unlisted unlisted same => exact .unlisted unlisted (registry.trans same)
  | refused turn unanswerable same => exact .refused turn unanswerable (registry.trans same)
  | taken turn answerable taken => exact .taken turn answerable (taken.aside registry drops)

theorem taken_closes {work : Work H F (Except StepError Outcome × H)} :
    Action.Closes (unruly H F) (Taken work id entryId heard d) id where
  frees taken := ⟨trivial, taken.aside rfl fun gone => gone.modifyFlow _⟩
  delists taken := ⟨trivial, taken.aside rfl fun gone => dropped_delist gone.flow⟩

theorem answered_closes : Action.Closes (unruly H F) (Answered steps id entryId input d) id where
  frees answered := ⟨trivial, answered.aside rfl fun gone => gone.modifyFlow _⟩
  delists answered := ⟨trivial, answered.aside rfl fun gone => dropped_delist gone.flow⟩

theorem ensures_submit_answered (kept : d.InPlace) (tunes : d.Tunes id entryId) (input : Data) :
    (Action.submit steps id input).run.Ensures (unruly H F)
      (Answered steps id entryId input d) [] d := by
  by_cases listed : id ∈ d.listed
  · refine Action.ensures_submit answered_closes listed fun heard s reached => ⟨trivial, ?_⟩
    obtain ⟨turn, there, tunes⟩ :
        HasTurn (unruly H F) d id heard s ∧ s.InPlace ∧ s.Tunes id entryId := by
      rcases reached with ⟨free, rfl, rfl⟩ | ⟨busy, found, rfl⟩
      · exact ⟨.atOnce free, kept, tunes⟩
      · exact ⟨.waited busy found, found.1, tunes.advance found.2⟩
    have marked := there.mark (Conduct.kept_any steps) id ({ · with busy := true })
      (fun _ => ⟨rfl, rfl⟩) (fun _ => rfl) (fun _ => rfl) fun _ => rfl
    refine Action.ensures_answering (fun unanswerable e => .refused turn unanswerable rfl) ?_
    intro flow clean answerable
    exact ensures_imp (fun later ended t taken => .taken turn answerable taken)
      (ensures_takeStep_taken marked.1 (tunes.advance marked.2) answerable.1 flow.step (some clean))
  · exact Action.ensures_unlisted listed (.unlisted listed rfl)

/-- The desk on which the options flow of an entry takes its first step. -/
def withOptionsFlow (d : Desk H) (entryId : String) (memory : H) : Desk H :=
  d.issue.2.enroll .options memory ⟨Issue.id d.issued, entryId, .user, 1, none, some entryId⟩ "init"

theorem tunes_withOptionsFlow (d : Desk H) (entryId : String) (memory : H) :
    (d.withOptionsFlow entryId memory).Tunes (Issue.id d.issued) entryId :=
  ⟨_, (flow_enroll ..).trans (if_pos rfl), rfl, rfl⟩

theorem ensures_startOptions_taken (kept : d.InPlace) {e : Entry} {i : Integration H} {memory : H}
    (held : d.registry.get? entryId = some e) (registered : d.integrations[e.domain]? = some i)
    (has : i.options e = some memory) :
    (Action.startOptions steps entryId).run.Ensures (unruly H F)
      (Taken (stepWork steps (Issue.id d.issued) "init" none memory) (Issue.id d.issued) entryId []
        (d.withOptionsFlow entryId memory)) [] d := by
  refine ensures_iff_obeys.mpr (Action.obeys_startOptions_at held registered has ?_)
  refine ⟨trivial, trivial, ensures_iff_obeys.mp (Action.ensures_underWay taken_closes ?_)⟩
  have listed := (kept.enroll (κ := .any) .options memory
    (c := ⟨Issue.id d.issued, entryId, .user, 1, none, some entryId⟩) "init" rfl).1
  exact ensures_takeStep_taken listed (tunes_withOptionsFlow d entryId memory)
    ((flow_enroll ..).trans (if_pos rfl)) "init" none

/-- However a desk is used, a start or a submit that takes a step of an options flow is answered by
what the step has come to on the desk as it is then. If that is to give the entry options, the flow
is over: the entry is given them, with nothing else changed but the time of the change, or is as it
was if it has these options; it is not registered, and nothing is changed; or the file could not be
written. If it is to abort, the flow is over and nothing is changed. Giving an entry the options
that it was given changes nothing. -/
theorem options_flow_commits (steps : Steps H F) (d : Desk H) (kept : d.InPlace)
    (before : List (Event H F)) :
    let c : Record H F := (Record.unused d).after steps before
    (∀ entryId e i memory later, c.state.registry.get? entryId = some e →
      c.state.integrations[e.domain]? = some i → i.options e = some memory →
      ∀ ended ∈ ((c.happen steps (.call (.startOptions entryId))).after steps later).ended,
        ended.party.number = c.begun →
        answering (Taken (stepWork steps (Issue.id c.state.issued) "init" none memory)
          (Issue.id c.state.issued) entryId [] (c.state.withOptionsFlow entryId memory))
          ended.heard ended.ending ended.state) ∧
    (∀ id entryId input later, c.state.Tunes id entryId →
      ∀ ended ∈ ((c.happen steps (.call (.submit id input))).after steps later).ended,
        ended.party.number = c.begun →
        answering (Answered steps id entryId input c.state) ended.heard ended.ending ended.state) ∧
    ∀ (r t : Registry) id options now changed, r.Filed →
      r.Retunes id options now t (.ok changed) →
      ((∃ e f, r.get? id = some e ∧ t.get? id = some f ∧ f.options.same options = true ∧
          f = { e with options := f.options, modifiedAt := f.modifiedAt }) ∧
        ∀ other, other ≠ id → t.get? other = r.get? other) ∧
      ∀ u now' answer, t.Retunes id options now' u answer → u = t ∧ answer = .ok false := by
  intro c
  have steady : (Conduct.any : Conduct H).Kept steps := Conduct.kept_any steps
  have honours : c.Honours (conducted .any) :=
    steady.after (Chronicle.honours_start kept) before
  have counted : c.Counted :=
    Record.counted_after (Record.counted_unused d) before
  have tracks (call : Call) {post : Post (Desk H) (.desk F) (Except FlowError FlowResult)}
      (ensures : (call.action steps).run.Ensures (unruly H F) post [] c.state)
      (later : List (Event H F)) :
      Chronicle.Tracks c.begun (unruly H F).silent (answering post)
        ((c.happen steps (.call call)).after steps later) :=
    steady.tracks honours counted (obeys_answered (ensures_iff_obeys.mp ensures))
      (fun _ _ _ _ there advanced => ⟨there, advanced⟩) later
  refine ⟨fun entryId e i memory later held registered has => ?_,
    fun id entryId input later tunes => ?_, fun r t id options now changed filed retunes => ?_⟩
  · exact (tracks (.startOptions entryId)
      (ensures_startOptions_taken honours.state held registered has) later).ended
  · exact (tracks (.submit id input)
      (ensures_submit_answered honours.state tunes input) later).ended
  · exact ⟨retunes.entries filed, fun u now' answer further => retunes.again filed further⟩

/-- Flows that ask for a level and give it to their entry. -/
def levelSteps : Steps Unit .hosting := fun _ input =>
  match input with
  | none => return .form ⟨"init", Schema.empty.optional "level" .string, ∅, ∅⟩
  | some options => return .create "" options ∅

def dimmableLamps : Integration Unit := { start := (), options := fun _ => some () }

/-- A desk with a lamp. -/
def dimmableDesk : Desk Unit where
  registry := { toCatalog := Catalog.restore {} Registry.lampA }
  integrations := Std.ExtTreeMap.insert ∅ "light" dimmableLamps
  now := .epoch

def dimmed : Data := Std.ExtTreeMap.insert ∅ "level" (.text "low")

/-- The options flow of the lamp shows its form. -/
def dimming : Record Unit .hosting :=
  (Record.unused dimmableDesk).happen levelSteps (.call (.startOptions "a"))

/-- The lamp is dimmed by a submit. -/
theorem lamp_dimmed :
    dimmableDesk.InPlace ∧ dimming.state.Tunes (Issue.id 0) "a" ∧
    (∀ ended ∈ (dimming.happen levelSteps (.call (.submit (Issue.id 0) dimmed))).ended,
      ended.party.number = dimming.begun →
      answering (Answered levelSteps (Issue.id 0) "a" dimmed dimming.state)
        ended.heard ended.ending ended.state) ∧
    ((dimming.happen levelSteps (.call (.submit (Issue.id 0) dimmed))).state.registry.get? "a").map
      Entry.options = some dimmed := by
  have filed : dimmableDesk.registry.Filed := Catalog.filed_empty.restore Registry.lampA
  have numbered : dimmableDesk.Numbered :=
    ⟨fun id f here => by simp [dimmableDesk] at here, fun id member => by simp [dimmableDesk] at member⟩
  have kept : dimmableDesk.InPlace := ⟨filed, numbered⟩
  have tunes : dimming.state.Tunes (Issue.id 0) "a" := ⟨_, rfl, rfl, rfl⟩
  refine ⟨kept, tunes, ?_, rfl⟩
  exact (options_flow_commits levelSteps dimmableDesk kept [.call (.startOptions "a")]).2.1
    (Issue.id 0) "a" dimmed [] tunes

end Desk

end Onboarding
