import Onboarding.Proofs.Flow.Tables

/-! Calls in their turn. A call that has the turn on a flow waits for devices and for the registry
only, with the turn on it, and while it waits the flow shows what it showed. It leaves the flow with
a form that it answers, or ended, or as it was; the turn is free again, and a flow whose start
failed is off the lists. -/
namespace Onboarding

variable {H : Type} {F : Signature}

/-- A claim that is made whoever else holds the unique id. -/
def StepRequest.Lax : StepRequest F → Prop
  | claim _ exclusive => exclusive = false
  | _ => False

/-- The reply names the handler of the flow, if it names any. -/
def StepRequest.Names (handler : String) : (q : StepRequest F) → q.Reply → Prop
  | context, c => c.handler = handler
  | _, _ => True

/-- The program of a flow of a handler claims unique ids only where no other flow of it holds them,
and leaves the flow with what flows of the practice remember. -/
def Prog.Exclusive (u : Practice H) (handler : String) :
    Prog (.step F) (Except StepError Outcome × H) → Prop
  | .done r => u.memory r.2
  | .crash _ => True
  | .ask q next => ¬ q.Lax ∧ ∀ r, q.Names handler r → Exclusive u handler (next r)

/-- All steps of the flows of a practice keep to it. -/
def Practice.Trains (u : Practice H) (steps : Steps H F) : Prop :=
  ∀ name input memory handler, u.binds handler → u.memory memory →
    (steps name input memory).Exclusive u handler

theorem Practice.none_trains (steps : Steps H F) : Practice.none.Trains steps :=
  fun _ _ _ _ bound => bound.elim

theorem Practice.none_admits (domain : String) (i : Integration H) :
    Practice.none.Admits domain i := ⟨fun bound => bound.elim, fun _ _ bound => bound.elim⟩

namespace Desk

variable {u : Practice H} {d d₀ t : Desk H} {g : String} {page : Option Page}

/-- A call on the flow is under way. -/
def Busy (d : Desk H) (id : String) : Prop := d.flows[id]?.any Flow.busy = true

/-- The flow shows a form, and so does its row if it has one. -/
structure Shows (d : Desk H) (id : String) (p : Page) : Prop where
  flow : ∃ f, d.flows[id]? = some f ∧ f.step = p.step ∧ f.schema = p.schema
  row : ∀ row, d.progress[id]? = some row → row.step = some p.step

/-- The flow has ended, and is off the lists. -/
structure Over (d : Desk H) (id : String) : Prop where
  flow : ∃ f, d.flows[id]? = some f ∧ f.finished = true
  unlisted : id ∉ d.listed

/-- The turn on a flow is taken, and the flow shows the form that it showed, if any. -/
structure Held (d : Desk H) (g : String) (page : Option Page) : Prop where
  busy : d.Busy g
  shows : ∀ p, page = some p → d.Shows g p

theorem Forth.gone (forth : Forth d t) (gone : d.Over g) : t.Over g := by
  obtain ⟨f, here, ended⟩ := gone.flow
  obtain ⟨f', there, _⟩ := forth.later.flows g f here
  refine ⟨⟨f', there, forth.lasts g f f' here there ended⟩, fun listed => ?_⟩
  rcases forth.later.listed g listed with before | none
  · exact gone.unlisted before
  · cases none.symm.trans here

/-! Where the flow and its row are changed in neither their turn nor their form. -/

/-- The flow is revised, but neither in its turn nor in its form. -/
structure Alike (g : String) (onFlow : Flow H → Flow H) (d t : Desk H) : Prop where
  flow : t.flows[g]? = d.flows[g]?.map onFlow
  step : ∀ f, (onFlow f).step = f.step
  schema : ∀ f, (onFlow f).schema = f.schema
  row : ∀ row, t.progress[g]? = some row → ∃ old, d.progress[g]? = some old ∧ row.step = old.step

theorem Alike.shows {onFlow : Flow H → Flow H} (alike : Alike g onFlow d t) {p : Page}
    (shows : d.Shows g p) : t.Shows g p := by
  obtain ⟨f, here, step, schema⟩ := shows.flow
  refine ⟨⟨onFlow f, ?_, (alike.step f).trans step, (alike.schema f).trans schema⟩,
    fun row at' => ?_⟩
  · rw [alike.flow, here]
    rfl
  · obtain ⟨old, before, same⟩ := alike.row row at'
    exact same.trans (shows.row old before)

theorem Alike.busy_iff {onFlow : Flow H → Flow H} (alike : Alike g onFlow d t)
    (same : ∀ f, (onFlow f).busy = f.busy) : t.Busy g ↔ d.Busy g := by
  rw [Busy, Busy, alike.flow]
  cases d.flows[g]? with
  | none => exact Iff.rfl
  | some f => simp [same]

theorem Alike.held {onFlow : Flow H → Flow H} (alike : Alike g onFlow d t)
    (same : ∀ f, (onFlow f).busy = f.busy) (held : d.Held g page) : t.Held g page :=
  ⟨(alike.busy_iff same).mpr held.busy, fun p shown => alike.shows (held.shows p shown)⟩

theorem Revision.alike {onFlow : Flow H → Flow H} {onRow : Progress → Progress}
    (revision : Revision g onFlow onRow d t) (step : ∀ f, (onFlow f).step = f.step)
    (schema : ∀ f, (onFlow f).schema = f.schema) (shown : ∀ r, (onRow r).step = r.step) :
    Alike g onFlow d t where
  flow := by
    rw [revision.flow]
    exact Option.map_congr fun f _ => if_pos rfl
  step := step
  schema := schema
  row row here := by
    rw [revision.row, Option.map_eq_some_iff] at here
    obtain ⟨old, before, rfl⟩ := here
    rw [if_pos rfl]
    exact ⟨old, before, shown old⟩

theorem Retirement.alike {onFlow : Flow H → Flow H} (retirement : Retirement g onFlow d t)
    (step : ∀ f, (onFlow f).step = f.step) (schema : ∀ f, (onFlow f).schema = f.schema) :
    Alike g onFlow d t where
  flow := by
    rw [retirement.flow]
    exact Option.map_congr fun f _ => if_pos rfl
  step := step
  schema := schema
  row row here := by
    rw [retirement.row, if_pos rfl] at here
    cases here

/-- What leaves a flow alone leaves it in its turn and its form. -/
theorem Spares.alike {agent : Option String} (spares : Spares agent d t) (other : agent ≠ some g) :
    Alike g (fun f => f) d t where
  flow := by
    rw [spares.flow g other, Option.map_id']
  step _ := rfl
  schema _ := rfl
  row row here := ⟨row, spares.row g row other here, rfl⟩

theorem Spares.of_none (spares : Spares none d t) (agent : Option String) : Spares agent d t where
  flow id _ := spares.flow id (by rintro ⟨⟩)
  row id row _ := spares.row id row (by rintro ⟨⟩)
  listed id _ := spares.listed id (by rintro ⟨⟩)

/-- What a call on a flow owes while it has the turn on it, and what it may rely on. -/
def manners (u : Practice H) (g : String) (page : Option Page) : Protocol (Desk H) (.desk F) where
  finds _ _ s t := t.Sound u ∧ Forth s t ∧ t.Held g page
  writes _ s t := Stroke u (some g) s t
  waits _ q s := (∀ other, q ≠ .awaitFlow other) ∧ s.Held g page

/-- How a call leaves the flow that it had the turn on. -/
inductive Leaves (g : String) (page : Option Page) (first : Bool) (d : Desk H) :
    Except Crash (Except FlowError FlowResult) → Prop where
  | form {r : FlowResult} {p : Page} (named : r.flowId = g) (body : r.body = .form p)
    (shows : d.Shows g p) : Leaves g page first d (.ok (.ok r))
  | terminal {r : FlowResult} (named : r.flowId = g) (terminal : r.isTerminal = true)
    (gone : d.Over g) (shows : ∀ p, page = some p → d.Shows g p) :
    Leaves g page first d (.ok (.ok r))
  | fails {e : FlowError} (unlisted : first = true → g ∉ d.listed)
    (shows : ∀ p, page = some p → d.Shows g p) : Leaves g page first d (.ok (.error e))
  | crashes {x : Crash} (shows : ∀ p, page = some p → d.Shows g p) :
    Leaves g page first d (.error x)

/-- The flow and its row may be marked afterwards. -/
theorem Leaves.alike {onFlow : Flow H → Flow H} {first : Bool}
    {ended : Except Crash (Except FlowError FlowResult)} (leaves : Leaves g page first d ended)
    (alike : Alike g onFlow d t) (forth : Forth d t) (listed : g ∈ t.listed → g ∈ d.listed) :
    Leaves g page first t ended := by
  have kept (shows : ∀ p, page = some p → d.Shows g p) (p : Page) (shown : page = some p) :
      t.Shows g p := alike.shows (shows p shown)
  cases leaves with
  | form named body shows => exact .form named body (alike.shows shows)
  | terminal named terminal gone shows =>
    exact .terminal named terminal (forth.gone gone) (kept shows)
  | fails unlisted shows =>
    exact .fails (fun start member => unlisted start (listed member)) (kept shows)
  | crashes shows => exact .crashes (kept shows)

/-! What a step asks while its flow has the turn. -/

/-- Since a first moment a call has had the turn on its flow. -/
structure Seated (u : Practice H) (d₀ : Desk H) (g : String) (page : Option Page) (d : Desk H) :
    Prop where
  sound : d.Sound u
  forth : Forth d₀ d
  held : d.Held g page

theorem Seated.beside (seated : Seated u d₀ g page d) (stroke : Stroke u none d t) :
    Stroke u (some g) d t ∧ Seated u d₀ g page t := by
  have alike := stroke.spares.alike (g := g) (by rintro ⟨⟩)
  exact ⟨⟨stroke.sound, stroke.forth, stroke.spares.of_none _⟩, stroke.sound,
    seated.forth.trans stroke.forth, alike.held (fun _ => rfl) seated.held⟩

theorem Seated.found (seated : Seated u d₀ g page d) {q : Calling F} {r : q.Reply}
    (found : (manners u g page).finds q r d t) : Seated u d₀ g page t :=
  ⟨found.1, seated.forth.trans found.2.1, found.2.2⟩

/-- The flow keeps its handler. -/
theorem Seated.handler (seated : Seated u d₀ g page d) {f : Flow H}
    (here : d₀.flows[g]? = some f) : (d.contextOf g).handler = f.context.handler := by
  obtain ⟨f', there, same⟩ := seated.forth.later.flows g f here
  have context : d.contextOf g = f'.context := by
    rw [contextOf, there]
    rfl
  rw [context, same.context]

open Job

section Answers

variable {heard : List (Heard (Desk H) (.desk F))}

/-- What a call does with the registry alone is done beside its flow, and it waits for the registry
with the turn on the flow. -/
theorem obeys_seated_host {α : Type} {a : Registry.Action α} (cycles : a.Cycles)
    {Q : Desk H → Prop} (lasts : ∀ d t, Q d → Forth d t → Q t) (start : Q d)
    (seated : Seated u d₀ g page d) :
    (Work.host a : Work H F (Except RegistryError α)).Obeys (manners u g page)
      (fun _ _ t => Seated u d₀ g page t ∧ Q t) heard d := by
  refine Work.obeys_host cycles (I := fun _ t => Seated u d₀ g page t ∧ Q t)
    (fun heard d r kept moved => ?_) (fun heard q d kept => ?_) (fun heard q r d t kept found => ?_)
    ⟨seated, start⟩
  · have stroke := kept.1.sound.lifecycle moved none
    obtain ⟨written, seated⟩ := kept.1.beside stroke
    exact ⟨written, seated, lasts _ _ kept.2 stroke.forth⟩
  · exact ⟨by rintro other ⟨⟩, kept.1.held⟩
  · exact ⟨kept.1.found found, lasts _ _ kept.2 found.2.1⟩

theorem obeys_answer {q : StepRequest F} {f : Flow H} (here : d₀.flows[g]? = some f)
    (allowed : u.binds f.context.handler → ¬ q.Lax) (seated : Seated u d₀ g page d) :
    (Work.answer g q : Work H F q.Reply).Obeys (manners u g page) (fun _ ended t =>
      Seated u d₀ g page t ∧ ∀ r, ended = .ok r → q.Names f.context.handler r) heard d := by
  cases q with
  | context =>
    refine ⟨seated, ?_⟩
    rintro c ⟨⟩
    exact seated.handler here
  | registry => exact ⟨seated, fun _ _ => trivial⟩
  | claim uniqueId exclusive =>
    have stroke : Stroke u (some g) d (d.claim g uniqueId exclusive).2 := by
      refine seated.sound.claim g uniqueId fun bound => ?_
      rw [seated.handler here] at bound
      exact eq_true_of_ne_false (allowed bound)
    refine ⟨stroke, ⟨stroke.sound, seated.forth.trans stroke.forth, ?_⟩, fun _ _ => trivial⟩
    change Held (d.claim g uniqueId exclusive).2 g page
    unfold Desk.claim
    dsimp only
    split
    · exact seated.held
    · have alike := (d.revision_both g
        (fun f => { f with context := { f.context with uniqueId := some uniqueId } })
        ({ · with uniqueId := some uniqueId })).alike (fun _ => rfl) (fun _ => rfl) fun _ => rfl
      exact alike.held (fun _ => rfl) seated.held
  | update entryId c =>
    have stroke := seated.sound.changed (.mutate (.update entryId c d.now)) none
    obtain ⟨written, seated⟩ := seated.beside stroke
    exact ⟨written, seated, fun _ _ => trivial⟩
  | reload entryId =>
    refine obeys_imp (fun _ _ _ kept => ⟨kept.1, fun _ _ => trivial⟩) (obeys_seated_host
      (Registry.Action.cycles_reload entryId) (Q := fun _ => True) (fun _ _ _ _ => trivial) trivial
      seated)
  | outside q =>
    refine ⟨⟨by rintro other ⟨⟩, seated.held⟩, fun r t found => ?_⟩
    exact ⟨seated.found found, fun _ _ => trivial⟩

/-- A step asks what it asks with the turn on its flow, and it claims as its handler does. -/
theorem obeys_program {f : Flow H} (here : d₀.flows[g]? = some f)
    (p : Prog (.step F) (Except StepError Outcome × H))
    (exclusive : u.binds f.context.handler → p.Exclusive u f.context.handler)
    (seated : Seated u d₀ g page d) :
    Obeys (manners u g page) (fun _ ended t => Seated u d₀ g page t ∧
        ∀ r, ended = .ok r → u.binds f.context.handler → u.memory r.2)
      (Prog.interpret (S := .step F) (Work.answer g) p) heard d := by
  induction p generalizing heard d with
  | done r =>
    refine ⟨seated, ?_⟩
    rintro r' ⟨⟩ bound
    exact exclusive bound
  | crash x => exact ⟨seated, by rintro r ⟨⟩⟩
  | ask q next ih =>
    refine obeys_bind.mpr (obeys_imp (fun heard ended t kept => ?_)
      (obeys_answer here (fun bound => (exclusive bound).1) seated))
    cases ended with
    | ok r => exact ih r (fun bound => (exclusive bound).2 r (kept.2 r rfl)) kept.1
    | error x => exact ⟨kept.1, by rintro r ⟨⟩⟩

/-! What a call does with what the step has come to. -/

/-- What is so of a call where it is about to give the turn back. -/
def Parting (u : Practice H) (g : String) (page : Option Page) :
    Post (Desk H) (.desk F) (Except FlowError FlowResult) := fun _ ended t =>
  t.Sound u ∧ Leaves g page false t ended

theorem Busy.flow (busy : d.Busy g) : ∃ f, d.flows[g]? = some f := by
  unfold Busy at busy
  cases here : d.flows[g]? with
  | none => simp [here] at busy
  | some f => exact ⟨f, rfl⟩

theorem Seated.named (seated : Seated u d₀ g page d) : (d.contextOf g).flowId = g := by
  obtain ⟨f, here⟩ := seated.held.busy.flow
  rw [contextOf, here]
  exact (seated.sound.numbered.flows g f here).1

/-- A call whose flow has ended answers that, or fails or crashes on the way. -/
theorem parting_over {c : Context} (ended : Except Crash (Except FlowError FlowResult.Body))
    (named : c.flowId = g) (seated : Seated u d₀ g page d) (gone : d.Over g)
    (terminal : ∀ body, ended = .ok (.ok body) → (Action.result c body).isTerminal = true) :
    Parting u g page heard (ended.map (·.map (Action.result c))) d := by
  refine ⟨seated.sound, ?_⟩
  match ended with
  | .ok (.ok body) => exact .terminal named (terminal body rfl) gone seated.held.shows
  | .ok (.error e) => exact .fails (by rintro ⟨⟩) seated.held.shows
  | .error x => exact .crashes seated.held.shows

theorem obeys_carryOut {c : Context} (named : c.flowId = g) (seated : Seated u d₀ g page d)
    (gone : d.Over g) (kind : FlowKind) (title : String) (data options : Data) :
    (Action.carryOut kind c title data options : Action H F FlowResult.Body).run.Obeys
      (manners u g page)
      (fun heard ended t => Parting u g page heard (ended.map (·.map (Action.result c))) t) heard
      d := by
  cases kind with
  | config =>
    have draws := seated.sound.issue none
    obtain ⟨drawn, seated'⟩ := seated.beside draws
    have gone' := draws.forth.gone gone
    have adds := seated'.sound.changed
      (.mutate (.add (Action.candidate d c title data options))) none
    obtain ⟨added, seated''⟩ := seated'.beside adds
    have gone'' := adds.forth.gone gone'
    refine Action.obeys_registerEntry rfl drawn added (fun i _ => ?_) (fun e _ _ => ?_)
      fun e _ => ?_
    · refine parting_over (.ok (.ok (.aborted alreadyConfigured))) named seated'' gone'' ?_
      rintro body ⟨⟩
      rfl
    · refine parting_over (.ok (.error (.registry e))) named seated'' gone'' ?_
      rintro body ⟨⟩
    · refine obeys_imp (fun heard ended t kept => ?_) (obeys_seated_host
        (Registry.Action.cycles_setUp e.id) (fun _ _ gone forth => forth.gone gone) gone'' seated'')
      refine parting_over
        (ended.map fun _ => .ok (.created title data options c.version (some e.id))) named kept.1
        kept.2 ?_
      intro body answer
      cases ended with
      | ok _ =>
        cases answer
        rfl
      | error x => cases answer
  | options =>
    refine Action.obeys_storeOptions ?_ fun entryId _ => ?_
    · refine parting_over (.ok (.ok (.created title data options c.version none))) named
        seated gone ?_
      rintro body ⟨⟩
      rfl
    · have updates := seated.sound.changed
        (.mutate (.update entryId { options := some data } d.now)) none
      obtain ⟨updated, seated'⟩ := seated.beside updates
      refine ⟨updated, fun ended ends => ?_⟩
      refine parting_over (.ok ended) named seated' (updates.forth.gone gone) ?_
      rintro body ⟨⟩
      rcases ends with ⟨e, ⟨⟩⟩ | ⟨⟨⟩⟩
      rfl

theorem Seated.remember (seated : Seated u d₀ g page d) {f : Flow H} {memory : H}
    (here : d₀.flows[g]? = some f) (trained : u.binds f.context.handler → u.memory memory) :
    Stroke u (some g) d (d.modifyFlow g ({ · with memory })) ∧
      Seated u d₀ g page (d.modifyFlow g ({ · with memory })) := by
  have stroke : Stroke u (some g) d (d.modifyFlow g ({ · with memory })) := by
    refine seated.sound.remember g fun f' there bound => ?_
    obtain ⟨f'', there', same⟩ := seated.forth.later.flows g f here
    cases there.symm.trans there'
    rw [same.context] at bound
    exact trained bound
  have alike := (d.revision_modifyFlow g ({ · with memory })).alike (fun _ => rfl) (fun _ => rfl)
    fun _ => rfl
  exact ⟨stroke, stroke.sound, seated.forth.trans stroke.forth,
    alike.held (fun _ => rfl) seated.held⟩

theorem Seated.close (seated : Seated u d₀ g page d) :
    Stroke u (some g) d (d.close g) ∧ Seated u d₀ g page (d.close g) ∧ (d.close g).Over g := by
  have stroke := seated.sound.close g
  have retirement := d.retirement_close g
  have alike := retirement.alike (fun _ => rfl) fun _ => rfl
  refine ⟨stroke, ⟨stroke.sound, seated.forth.trans stroke.forth,
    alike.held (fun _ => rfl) seated.held⟩, ?_, ?_⟩
  · obtain ⟨f, here⟩ := seated.held.busy.flow
    refine ⟨{ f with finished := true }, ?_, rfl⟩
    rw [alike.flow, here]
    rfl
  · rw [retirement.listed]
    exact fun member => member.1 rfl

theorem shows_showPage (held : d.Held g page) (p : Page) : (d.showPage g p).Shows g p := by
  have revision := d.revision_both g (fun f => { f with step := p.step, schema := p.schema })
    ({ · with step := some p.step })
  obtain ⟨f, here⟩ := held.busy.flow
  refine ⟨⟨{ f with step := p.step, schema := p.schema }, ?_, rfl, rfl⟩, fun row there => ?_⟩
  · refine (revision.flow g).trans ?_
    rw [here]
    exact congrArg some (if_pos rfl)
  · have shown := (revision.row g).symm.trans there
    rw [Option.map_eq_some_iff] at shown
    obtain ⟨old, _, rfl⟩ := shown
    rw [if_pos rfl]

theorem obeys_conclude (kind : FlowKind) (o : Outcome) (seated : Seated u d₀ g page d) :
    (Action.conclude g kind o : Action H F FlowResult).run.Obeys (manners u g page)
      (Parting u g page) heard d := by
  have named := seated.named
  obtain ⟨closes, closed, gone⟩ := seated.close
  cases o with
  | form p =>
    have shows := seated.sound.showPage g p
    exact ⟨shows, shows.sound, .form named rfl (shows_showPage seated.held p)⟩
  | abort reason =>
    exact ⟨closes, closed.sound, .terminal named rfl gone closed.held.shows⟩
  | create title data options =>
    refine ⟨closes, ?_⟩
    cases kind with
    | config =>
      exact Action.obeys_result (obeys_carryOut named closed gone .config title data options)
    | options =>
      exact Action.obeys_result (obeys_carryOut named closed gone .options title data options)

theorem obeys_settle {f : Flow H} (here : d₀.flows[g]? = some f) (kind : FlowKind)
    (r : Except StepError Outcome × H) (trained : u.binds f.context.handler → u.memory r.2)
    (seated : Seated u d₀ g page d) :
    (Action.settle g kind r : Action H F FlowResult).run.Obeys (manners u g page)
      (Parting u g page) heard d := by
  obtain ⟨ending, memory⟩ := r
  obtain ⟨noted, seated'⟩ := seated.remember here trained
  refine ⟨noted, ?_⟩
  match ending with
  | .ok o => exact obeys_conclude kind o seated'
  | .error (.abort reason) => exact obeys_conclude kind (.abort reason) seated'
  | .error (.unknownStep step) =>
    exact ⟨seated'.sound, .fails (by rintro ⟨⟩) seated'.held.shows⟩
  | .error (.registry e) => exact ⟨seated'.sound, .fails (by rintro ⟨⟩) seated'.held.shows⟩

variable {steps : Steps H F}

theorem obeys_takeStep (trains : u.Trains steps) (sound : d.Sound u) (held : d.Held g page)
    (step : String) (input : Option Data) :
    (Action.takeStep steps g step input).run.Obeys (manners u g page) (Parting u g page) heard
      d := by
  obtain ⟨f, here⟩ := held.busy.flow
  refine (Action.obeys_takeStep_iff here).mpr (obeys_imp (fun heard ended t kept => ?_)
    (obeys_program here (steps step input f.memory)
      (fun bound => trains step input f.memory _ bound (sound.trained g f here bound))
      ⟨sound, .refl d, held⟩))
  cases ended with
  | ok r => exact obeys_settle here f.kind r (kept.2 r rfl) kept.1
  | error x => exact ⟨kept.1.sound, .crashes kept.1.held.shows⟩

/-- How a call gives the turn back. -/
def Returns (g : String) (page : Option Page) (first : Bool) :
    Post (Desk H) (.desk F) (Except FlowError FlowResult) := fun _ ended t =>
  ¬ t.Busy g ∧ Leaves g page first t ended

theorem not_busy_freed (d : Desk H) (g : String) :
    ¬ (d.modifyFlow g ({ · with busy := false })).Busy g := by
  rw [Busy, flow_modifyFlow_self]
  cases d.flows[g]? <;> simp

theorem alike_mark (d : Desk H) (g : String) (busy : Bool) :
    Alike g ({ · with busy }) d (d.modifyFlow g ({ · with busy })) :=
  (d.revision_modifyFlow g ({ · with busy })).alike (fun _ => rfl) (fun _ => rfl) fun _ => rfl

/-- What a call leaves behind in its turn it leaves behind for good. -/
theorem returns_freed {ended : Except Crash (Except FlowError FlowResult)}
    (parting : Parting u g page heard ended d) :
    Stroke u (some g) d (d.modifyFlow g ({ · with busy := false })) ∧
      Returns g page false heard ended (d.modifyFlow g ({ · with busy := false })) := by
  have stroke := parting.1.mark g false
  exact ⟨stroke, not_busy_freed d g,
    parting.2.alike (alike_mark d g false) stroke.forth fun member => member⟩

/-- What a submit does once it has the turn. -/
def turnJob (steps : Steps H F) (g : String) (input : Data) :
    Work H F (Except FlowError FlowResult) := do
  modify (·.modifyFlow g ({ · with busy := true }))
  (Action.answering steps g input).run.closing (modify (·.modifyFlow g ({ · with busy := false })))

theorem held_taken {f : Flow H} (here : d.flows[g]? = some f)
    (shows : ∀ p, page = some p → d.Shows g p) :
    (d.modifyFlow g ({ · with busy := true })).Held g page := by
  refine ⟨?_, fun p shown => (alike_mark d g true).shows (shows p shown)⟩
  rw [Busy, flow_modifyFlow_self, here]
  rfl

/-- A submit in its turn on a flow gives the turn back. -/
theorem obeys_turnJob (trains : u.Trains steps) (sound : d.Sound u) {f : Flow H}
    (here : d.flows[g]? = some f) (shows : ∀ p, page = some p → d.Shows g p) (input : Data) :
    (turnJob steps g input).Obeys (manners u g page) (Returns g page false) heard d := by
  have taking := sound.mark g true
  have held := held_taken here shows
  have parts : (Action.answering steps g input).run.Obeys (manners u g page) (Parting u g page) heard
      (d.modifyFlow g ({ · with busy := true })) := by
    refine Action.obeys_answering (fun _ e => ?_) fun f' clean _ => ?_
    · exact ⟨taking.sound, .fails (by rintro ⟨⟩) held.shows⟩
    · exact obeys_takeStep trains taking.sound held f'.step (some clean)
  exact ⟨taking, obeys_closing.mpr (obeys_imp (fun _ _ _ parting => returns_freed parting) parts)⟩

/-- A submit in its turn on a flow that has ended does not wait, and fails. -/
theorem obeys_turnJob_over (sound : d.Sound u) {f : Flow H} (here : d.flows[g]? = some f)
    (ended : f.finished = true) (shows : ∀ p, page = some p → d.Shows g p) (input : Data) :
    (turnJob steps g input).Obeys { manners u g page with waits := fun _ _ _ => False }
      (fun heard ended t => Returns g page false heard ended t ∧ ∃ e, ended = .ok (.error e)) heard
      d := by
  have taking := sound.mark g true
  have held := held_taken here shows
  have there : (d.modifyFlow g ({ · with busy := true })).flows[g]? =
      some { f with busy := true } := by
    rw [flow_modifyFlow_self, here]
    rfl
  refine ⟨taking, obeys_closing.mpr (Action.obeys_answering (fun _ e => ?_)
    fun f' clean answerable => ?_)⟩
  · have parting : Parting u g page heard (.ok (.error e))
        (d.modifyFlow g ({ · with busy := true })) :=
      ⟨taking.sound, .fails (by rintro ⟨⟩) held.shows⟩
    obtain ⟨stroke, returns⟩ := returns_freed parting
    exact ⟨stroke, returns, e, rfl⟩
  · cases there.symm.trans answerable.1
    exact absurd (ended.symm.trans answerable.2.1) (by decide)

/-- A start takes the first step in the turn on its flow, and leaves no flow on the lists that it
does not start. -/
theorem obeys_underWay (trains : u.Trains steps) (sound : d.Sound u) (held : d.Held g none)
    (step : String) (data : Option Data) :
    (Action.underWay steps g step data).run.Obeys (manners u g none) (Returns g none true) heard
      d := by
  refine Action.obeys_underWay (obeys_imp (fun heard ended t parting => ?_)
    (obeys_takeStep trains sound held step data))
  obtain ⟨stroke, returns⟩ := returns_freed parting
  refine ⟨stroke, ?_⟩
  match ended, returns.2 with
  | .ok (.error e), _ =>
    have delists := stroke.sound.delist g
    have retirement := retirement_delist (t.modifyFlow g ({ · with busy := false })) g
    refine ⟨delists, ?_, .fails (fun _ member => ((retirement.listed g).mp member).1 rfl)
      (by rintro p ⟨⟩)⟩
    exact fun busy => returns.1 (((retirement.alike (fun _ => rfl) fun _ => rfl).busy_iff
      fun _ => rfl).mp busy)
  | .ok (.ok r), .form named body shows => exact ⟨returns.1, .form named body shows⟩
  | .ok (.ok r), .terminal named terminal gone shows =>
    exact ⟨returns.1, .terminal named terminal gone shows⟩
  | .error x, .crashes shows => exact ⟨returns.1, .crashes shows⟩

end Answers

end Desk

end Onboarding
