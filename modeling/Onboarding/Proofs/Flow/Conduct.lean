import Onboarding.Proofs.Flow.Runs

/-! How the flows of a family conduct themselves. It is said once what a flow may go on to, and
checked for what the desk notes and for the ends of the steps; then every flow goes on like that,
in whatever order the calls and the replies come in. -/
namespace Onboarding

/-- However it is answered, the program ends in `E`, or it crashes. -/
def Prog.Ends {S : Signature} {α : Type} (E : α → Prop) : Prog S α → Prop
  | done a => E a
  | crash _ => True
  | ask _ next => ∀ r, (next r).Ends E

theorem Prog.Ends.bind {S : Signature} {α β : Type} {E : α → Prop} {G : β → Prop} {p : Prog S α}
    {f : α → Prog S β} (ends : p.Ends E) (others : ∀ a, E a → (f a).Ends G) :
    (p.bind f).Ends G := by
  induction p with
  | done a => exact others a ends
  | crash => trivial
  | ask q next ih => exact fun r => ih r (ends r)

theorem Prog.ends_of_forall {S : Signature} {α : Type} {E : α → Prop} (always : ∀ a, E a)
    (p : Prog S α) : p.Ends E := by
  induction p with
  | done a => exact always a
  | crash => trivial
  | ask q next ih => exact ih

namespace Desk

open Job

variable {H : Type} {F : Signature}

/-- What a flow may go on to. -/
structure Conduct (H : Type) where
  goes : Flow H → Flow H → Prop
  refl : ∀ f, goes f f
  trans : ∀ {f g h}, goes f g → goes g h → goes f h

/-- A flow may remember what a step ends with, and show its form. -/
structure Conduct.Turns (κ : Conduct H) (f : Flow H) (r : Except StepError Outcome × H) :
    Prop where
  goes : κ.goes f { f with memory := r.2 }
  shows : ∀ p, r.1 = .ok (.form p) →
    κ.goes { f with memory := r.2 } { f with memory := r.2, step := p.step, schema := p.schema }

/-- The desk and the steps of its flows keep to the conduct. -/
structure Conduct.Kept (κ : Conduct H) (steps : Steps H F) : Prop where
  /-- Whatever is noted about a flow, unless that is its form or what it remembers. -/
  mark : ∀ {f g}, f.Same g → g.memory = f.memory → g.step = f.step → g.schema = f.schema →
    κ.goes f g
  step : ∀ (f : Flow H) (input : Option Data), (steps f.step input f.memory).Ends fun r =>
    ∀ g, f.Same g → κ.goes f g → κ.Turns g r

/-- Flows that may do anything. -/
def Conduct.any : Conduct H where
  goes _ _ := True
  refl _ := trivial
  trans _ _ := trivial

theorem Conduct.kept_any (steps : Steps H F) : (Conduct.any : Conduct H).Kept steps where
  mark _ _ _ _ := trivial
  step _ _ := Prog.ends_of_forall (fun _ _ _ _ => ⟨trivial, fun _ _ => trivial⟩) _

/-- Every entry and every flow is filed under its id. -/
structure InPlace (d : Desk H) : Prop where
  filed : d.registry.Filed
  numbered : d.Numbered

/-- The flows of a desk have gone on as they may. -/
structure Advanced (κ : Conduct H) (d t : Desk H) : Prop where
  later : Later d t
  flows : ∀ (id : String) (f : Flow H), d.flows[id]? = some f →
    ∃ g, t.flows[id]? = some g ∧ f.Same g ∧ κ.goes f g

theorem Advanced.refl (κ : Conduct H) (d : Desk H) : Advanced κ d d :=
  ⟨.refl d, fun _ f here => ⟨f, here, .refl f, κ.refl f⟩⟩

theorem Advanced.trans {κ : Conduct H} {d t u : Desk H} (first : Advanced κ d t)
    (second : Advanced κ t u) : Advanced κ d u := by
  refine ⟨first.later.trans second.later, fun id f here => ?_⟩
  obtain ⟨g, there, same, goes⟩ := first.flows id f here
  obtain ⟨h, further, same', goes'⟩ := second.flows id g there
  exact ⟨h, further, same.trans same', κ.trans goes goes'⟩

/-- All flows keep to the conduct. -/
def conducted (κ : Conduct H) : Contract (Option String) (Desk H) (.desk F) Answer where
  holds := InPlace
  later := Advanced κ
  writes _ _ _ _ := True
  ends _ _ _ _ := True
  refl := Advanced.refl κ
  trans := Advanced.trans

namespace InPlace

variable {κ : Conduct H} {steps : Steps H F} {d t : Desk H} {id : String}

/-- A desk whose flows are the same. -/
theorem aside (kept : d.InPlace) (filed : t.registry.Filed) (flows : t.flows = d.flows)
    (listed : t.listed = d.listed) (issued : t.issued = d.issued) :
    t.InPlace ∧ Advanced κ d t := by
  obtain ⟨numbered, later⟩ := kept.numbered.aside flows listed issued
  refine ⟨⟨filed, numbered⟩, later, ?_⟩
  rw [flows]
  exact fun id f here => ⟨f, here, .refl f, κ.refl f⟩

theorem mutate (kept : d.InPlace) (m : Registry.Mutation) :
    InPlace { d with registry := (m.run d.registry).1 } ∧
      Advanced κ d { d with registry := (m.run d.registry).1 } :=
  kept.aside (Registry.filed_change kept.filed (.mutate m)) rfl rfl rfl

theorem note (kept : d.InPlace) (notes : d.Notes t)
    (moves : ∀ (id : String) (f g : Flow H), d.flows[id]? = some f → t.flows[id]? = some g →
      κ.goes f g) : t.InPlace ∧ Advanced κ d t := by
  obtain ⟨numbered, later⟩ := kept.numbered.note notes
  obtain ⟨change, same, flows⟩ := notes.flows
  refine ⟨⟨notes.registry ▸ kept.filed, numbered⟩, later, fun id f here => ?_⟩
  have there : t.flows[id]? = some (change id f) := by
    rw [flows, here]
    rfl
  exact ⟨_, there, same id f, moves id f _ here there⟩

/-- One flow goes on. -/
theorem modify (kept : d.InPlace) (id : String) (change : Flow H → Flow H)
    (same : ∀ f : Flow H, f.Same (change f))
    (moves : ∀ f, d.flows[id]? = some f → κ.goes f (change f)) :
    (d.modifyFlow id change).InPlace ∧ Advanced κ d (d.modifyFlow id change) := by
  refine kept.note (d.notes_modifyFlow id same) fun other f g here there => ?_
  rw [flow_modifyFlow, here, Option.map_some, Option.some.injEq] at there
  subst there
  split
  · rename_i itself
    exact moves f (itself ▸ here)
  · exact κ.refl f

/-- The desk marks a flow. -/
theorem mark (kept : d.InPlace) (steady : κ.Kept steps) (id : String) (change : Flow H → Flow H)
    (same : ∀ f : Flow H, f.Same (change f)) (memory : ∀ f, (change f).memory = f.memory)
    (step : ∀ f, (change f).step = f.step) (schema : ∀ f, (change f).schema = f.schema) :
    (d.modifyFlow id change).InPlace ∧ Advanced κ d (d.modifyFlow id change) :=
  kept.modify id change same fun f _ => steady.mark (same f) (memory f) (step f) (schema f)

theorem delist (kept : d.InPlace) (id : String) :
    (d.delist id).InPlace ∧ Advanced κ d (d.delist id) := by
  refine kept.note (d.notes_delist id) fun other f g here there => ?_
  cases here.symm.trans there
  exact κ.refl f

theorem close (kept : d.InPlace) (steady : κ.Kept steps) (id : String) :
    (d.close id).InPlace ∧ Advanced κ d (d.close id) := by
  obtain ⟨marked, onward⟩ := kept.mark steady id ({ · with finished := true })
    (fun _ => ⟨rfl, rfl⟩) (fun _ => rfl) (fun _ => rfl) fun _ => rfl
  obtain ⟨closed, onward'⟩ := marked.delist id
  exact ⟨closed, onward.trans onward'⟩

theorem claim (kept : d.InPlace) (steady : κ.Kept steps) (id uniqueId : String)
    (exclusive : Bool) : (d.claim id uniqueId exclusive).2.InPlace ∧
      Advanced κ d (d.claim id uniqueId exclusive).2 := by
  unfold Desk.claim
  dsimp only
  split
  · exact ⟨kept, .refl κ d⟩
  · obtain ⟨noted, onward⟩ := kept.aside
      (t := d.modifyProgress id ({ · with uniqueId := some uniqueId })) kept.filed rfl rfl rfl
    obtain ⟨marked, onward'⟩ := noted.mark steady id
      (fun f => { f with context := { f.context with uniqueId := some uniqueId } })
      (fun _ => ⟨rfl, rfl⟩) (fun _ => rfl) (fun _ => rfl) fun _ => rfl
    exact ⟨marked, onward.trans onward'⟩

theorem issue (kept : d.InPlace) : d.issue.2.InPlace ∧ Advanced κ d d.issue.2 := by
  obtain ⟨numbered, later⟩ := kept.numbered.issue
  exact ⟨⟨kept.filed, numbered⟩, later, (Advanced.refl κ d).flows⟩

theorem enroll (kept : d.InPlace) (kind : FlowKind) (memory : H) {c : Context} (step : String)
    (given : c.flowId = Issue.id d.issued) : (d.issue.2.enroll kind memory c step).InPlace ∧
      Advanced κ d.issue.2 (d.issue.2.enroll kind memory c step) := by
  obtain ⟨numbered, later⟩ := kept.numbered.enroll kind memory step given
  refine ⟨⟨kept.filed, numbered⟩, later, fun id f here => ?_⟩
  have other : c.flowId ≠ id := by
    rintro rfl
    rw [given] at here
    cases kept.numbered.fresh.symm.trans here
  exact ⟨f, by rw [flow_enroll, if_neg other, here], .refl f, κ.refl f⟩

theorem restart (d : Desk H) : d.restart.1.InPlace where
  filed := Registry.filed_restarted d.registry d.now
  numbered := ⟨fun id f here => by simp [Desk.restart] at here,
    fun id member => by simp [Desk.restart] at member⟩

end InPlace

/-- A desk before anything is done at it. -/
def Record.unused (d : Desk H) : Record H F where
  state := d

theorem Record.counted_unused (d : Desk H) : (unused d : Record H F).Counted :=
  ⟨by rintro w ⟨⟩, by rintro d ⟨⟩, by rintro e ⟨⟩⟩

/-- A desk that starts with what an earlier one left on the disk, which is nothing at first. -/
def Record.restarted (d : Desk H) : Record H F where
  state := d.restart.1

theorem Record.counted_restarted (d : Desk H) : (restarted d : Record H F).Counted :=
  ⟨by rintro w ⟨⟩, by rintro d ⟨⟩, by rintro e ⟨⟩⟩

section Calls

variable {κ : Conduct H} {steps : Steps H F} {d : Desk H} {id : String}
  {p : Party (Option String)} {heard : List (Heard (Desk H) (.desk F))}

/-- All is in its place at the end. -/
def leftInPlace {α : Type} : Post (Desk H) (.desk F) α := fun _ _ t => t.InPlace

/-- What is kept from any state on is kept from this one on. -/
theorem ensures_conducted {α : Type} {w : Work H F α} (always : w.Always InPlace (Advanced κ))
    (kept : d.InPlace) :
    w.Ensures ((conducted κ).terms p) (fun _ _ t => t.InPlace ∧ Advanced κ d t) heard d := by
  refine ensures_mono (Advanced κ d) (fun q r s t since found => ?_)
    (fun heard s t since written => ?_) (fun heard ended t since kept => ⟨kept, since⟩) (.refl κ d)
    (ensures_of_keeps kept (always d kept))
  · exact ⟨found.2.1, since.trans found.2.2⟩
  · exact ⟨⟨written, trivial⟩, since.trans written.2⟩

theorem conducted_host {α : Type} {a : Registry.Action α} (cycles : a.Cycles) :
    (Work.host a : Work H F (Except RegistryError α)).Always InPlace (Advanced κ) :=
  Work.keeps_host (fun d r kept moved =>
    kept.aside (t := { d with registry := r }) (Registry.filed_lifecycle kept.filed moved) rfl rfl
      rfl) cycles

theorem conducted_answer (steady : κ.Kept steps) (id : String) (q : StepRequest F) :
    (Work.answer id q : Work H F q.Reply).Always InPlace (Advanced κ) := by
  cases q with
  | context => exact always_get_bind fun d => always_pure _
  | registry => exact always_get_bind fun d => always_pure _
  | claim uniqueId exclusive =>
    exact always_modifyGet fun d kept => kept.claim steady id uniqueId exclusive
  | update entryId u => exact always_modifyGet fun d kept => kept.mutate (.update entryId u d.now)
  | reload entryId => exact conducted_host (Registry.Action.cycles_reload entryId)
  | outside q => exact always_call _

/-- What a step ends with it ends with at the desk as well, whatever happens to its flow meanwhile.
-/
theorem conducted_program (steady : κ.Kept steps) {α : Type} {E : α → Prop}
    {program : Prog (.step F) α} (ends : program.Ends E) (kept : d.InPlace) :
    Ensures ((conducted κ).terms p)
      (fun _ ended t => (t.InPlace ∧ Advanced κ d t) ∧ ∀ a, ended = .ok a → E a)
      (program.interpret (Work.answer id)) heard d := by
  induction program generalizing heard d with
  | done a =>
    refine ⟨⟨kept, .refl κ d⟩, ?_⟩
    rintro a ⟨⟩
    exact ends
  | crash x =>
    refine ⟨⟨kept, .refl κ d⟩, ?_⟩
    rintro a ⟨⟩
  | ask q next ih =>
    refine ensures_bind.mpr (ensures_imp (fun heard ended t answered => ?_)
      (ensures_conducted (conducted_answer steady id q) kept))
    cases ended with
    | ok r =>
      refine ensures_imp (fun heard ended u ends => ?_) (ih r (ends r) answered.1)
      exact ⟨⟨ends.1.1, answered.2.trans ends.1.2⟩, ends.2⟩
    | error x =>
      refine ⟨answered, ?_⟩
      rintro a ⟨⟩

theorem conducted_carryOut (kind : FlowKind) (c : Context) (title : String) (data options : Data)
    (kept : d.InPlace) :
    (Action.carryOut kind c title data options : Action H F FlowResult.Body).run.Ensures
      ((conducted κ).terms p) leftInPlace heard d := by
  cases kind with
  | config =>
    have issued := kept.issue (κ := κ)
    have added := issued.1.mutate (κ := κ) (.add (Action.candidate d c title data options))
    refine Action.ensures_registerEntry rfl ⟨issued, trivial⟩ ⟨added, trivial⟩ (fun _ _ => added.1)
      (fun _ _ _ => added.1) fun e _ => ?_
    exact ensures_imp (fun _ _ _ hosted => hosted.1)
      (ensures_conducted (conducted_host (Registry.Action.cycles_setUp e.id)) added.1)
  | options =>
    refine Action.ensures_storeOptions kept fun entryId _ => ?_
    have updated := kept.mutate (κ := κ) (.update entryId { options := some data } d.now)
    exact ⟨⟨updated, trivial⟩, fun _ _ => updated.1⟩

theorem conducted_settle (steady : κ.Kept steps) (kind : FlowKind)
    {r : Except StepError Outcome × H} (kept : d.InPlace)
    (turns : ∀ f, d.flows[id]? = some f → κ.Turns f r) :
    (Action.settle id kind r : Action H F FlowResult).run.Ensures ((conducted κ).terms p)
      leftInPlace heard d := by
  obtain ⟨ending, memory⟩ := r
  have noted := kept.modify id ({ · with memory }) (fun _ => ⟨rfl, rfl⟩) fun f here =>
    (turns f here).goes
  have closed := noted.1.close steady id
  match ending with
  | .ok (.form page) =>
    have shown := noted.1.note (κ := κ) (Desk.notes_showPage _ id page)
        fun other f g here there => by
      change ((d.modifyFlow id _).modifyFlow id _).flows[other]? = some g at there
      rw [flow_modifyFlow, here, Option.map_some, Option.some.injEq] at there
      subst there
      split
      · rename_i itself
        rw [← itself, flow_modifyFlow_self, Option.map_eq_some_iff] at here
        obtain ⟨old, before, rfl⟩ := here
        exact (turns old before).shows page rfl
      · exact κ.refl f
    exact ⟨⟨noted, trivial⟩, ⟨shown, trivial⟩, shown.1⟩
  | .ok (.abort reason) => exact ⟨⟨noted, trivial⟩, ⟨closed, trivial⟩, closed.1⟩
  | .ok (.create title data options) =>
    exact Action.ensures_settle_create ⟨noted, trivial⟩ ⟨closed, trivial⟩
      (conducted_carryOut kind _ title data options closed.1)
  | .error (.abort reason) => exact ⟨⟨noted, trivial⟩, ⟨closed, trivial⟩, closed.1⟩
  | .error (.unknownStep step) => exact ⟨⟨noted, trivial⟩, noted.1⟩
  | .error (.registry e) => exact ⟨⟨noted, trivial⟩, noted.1⟩

theorem conducted_takeStep (steady : κ.Kept steps) {f : Flow H} (here : d.flows[id]? = some f)
    (input : Option Data) (kept : d.InPlace) :
    (Action.takeStep steps id f.step input).run.Ensures ((conducted κ).terms p) leftInPlace
      heard d := by
  refine (Action.ensures_takeStep_iff here).mpr (ensures_imp (fun heard ended t ended' => ?_)
    (conducted_program steady (steady.step f input) kept))
  obtain ⟨⟨there, onward⟩, turns⟩ := ended'
  cases ended with
  | ok r =>
    refine conducted_settle steady f.kind there fun g found => ?_
    obtain ⟨g', found', same, goes⟩ := onward.flows id f here
    cases found.symm.trans found'
    exact turns r rfl g same goes
  | error x => exact there

theorem closes_conducted (steady : κ.Kept steps) (id : String) :
    Action.Closes (F := F) ((conducted κ).terms p) leftInPlace id where
  frees kept :=
    have freed := InPlace.mark kept steady id ({ · with busy := false }) (fun _ => ⟨rfl, rfl⟩)
      (fun _ => rfl) (fun _ => rfl) fun _ => rfl
    ⟨⟨freed, trivial⟩, freed.1⟩
  delists kept :=
    have delisted := InPlace.delist kept id
    ⟨⟨delisted, trivial⟩, delisted.1⟩

theorem conducted_submit (steady : κ.Kept steps) (id : String) (input : Data)
    (kept : d.InPlace) :
    (Action.submit steps id input).run.Ensures ((conducted κ).terms p) leftInPlace heard d := by
  by_cases listed : id ∈ d.listed
  · refine Action.ensures_submit (closes_conducted steady id) listed fun heard' t reached => ?_
    have there : t.InPlace := by
      rcases reached with ⟨_, _, rfl⟩ | ⟨_, found, _⟩
      · exact kept
      · exact found.2.1
    have taken := there.mark steady id ({ · with busy := true }) (fun _ => ⟨rfl, rfl⟩)
      (fun _ => rfl) (fun _ => rfl) fun _ => rfl
    refine ⟨⟨taken, trivial⟩, Action.ensures_answering (fun _ _ => taken.1) ?_⟩
    intro f clean answerable
    exact conducted_takeStep steady answerable.1 (some clean) taken.1
  · exact Action.ensures_unlisted listed kept

theorem opens_conducted (steady : κ.Kept steps) (kept : d.InPlace) :
    Action.Opens steps ((conducted κ).terms p) leftInPlace heard d := by
  intro kind memory c step data opening
  have listed := kept.enroll (κ := κ) kind memory step opening.flowId
  refine ⟨⟨kept.issue, trivial⟩, ⟨listed, trivial⟩, ?_⟩
  have here : (d.issue.2.enroll kind memory c step).flows[c.flowId]? =
      some { kind, memory, context := c, step, schema := .empty, busy := true } := by
    rw [flow_enroll, if_pos rfl]
  exact Action.ensures_underWay (closes_conducted steady c.flowId)
    (conducted_takeStep steady here data listed.1)

theorem conducted_call (steady : κ.Kept steps) (c : Call) (kept : d.InPlace) :
    (conducted κ).Meets p (c.job steps) [] d := by
  have ends : (c.action steps).run.Ensures ((conducted κ).terms p) leftInPlace [] d := by
    have fails (_ : FlowError) : d.InPlace := kept
    have opens : Action.Opens steps ((conducted κ).terms p) leftInPlace [] d :=
      opens_conducted steady kept
    cases c with
    | start handler source data => exact Action.ensures_startConfig fails opens
    | startReauth entryId => exact Action.ensures_startReauth fails opens
    | startOptions entryId => exact Action.ensures_startOptions fails opens
    | submit id input => exact conducted_submit steady id input kept
  refine ensures_bind.mpr (ensures_imp (fun heard ended t _ => ?_) ends)
  cases ended <;> trivial

/-- Whatever is done at a desk, all its flows keep to the conduct that its steps keep to. -/
theorem serves_conducted (steady : κ.Kept steps) :
    Serves steps (conducted κ) fun _ _ => True where
  change {d c} kept _ := kept.aside (t := d.changed c) (Registry.filed_change kept.filed c) rfl rfl
    rfl
  abort {d id} kept _ := by
    unfold Desk.abort
    split
    · exact kept.delist id
    · exact ⟨kept, .refl κ d⟩
  issue kept _ := kept.issue
  integrate {d domain i} kept _ :=
    kept.aside (t := { d with integrations := d.integrations.insert domain i }) kept.filed rfl rfl
      rfl
  time {d now} kept _ := kept.aside (t := { d with now }) kept.filed rfl rfl rfl
  errand {d e number} kept _ := by
    refine ensures_bind.mpr (ensures_imp (fun heard ended t _ => ?_)
      (ensures_conducted (conducted_host e.cycles) kept))
    cases ended <;> trivial
  reply _ _ _ _ := trivial
  call {d c number} kept _ := conducted_call steady c kept

namespace Conduct.Kept

variable {c : Record H F}

theorem honours (steady : κ.Kept steps) (d : Desk H) (events : List (Event H F)) :
    ((Record.restarted d).after steps events).Honours (conducted κ) :=
  (serves_conducted steady).after (Chronicle.honours_start (InPlace.restart d))
    (Record.throughout (fun _ _ _ => trivial) _)

theorem happen (steady : κ.Kept steps) (honours : c.Honours (conducted κ)) (event : Event H F) :
    (c.happen steps event).Honours (conducted κ) :=
  (serves_conducted steady).happen honours trivial

theorem after (steady : κ.Kept steps) (honours : c.Honours (conducted κ))
    (events : List (Event H F)) : (c.after steps events).Honours (conducted κ) :=
  (serves_conducted steady).after honours (Record.throughout (fun _ _ _ => trivial) c)

theorem advanced (steady : κ.Kept steps) (honours : c.Honours (conducted κ))
    (events : List (Event H F)) : Advanced κ c.state (c.after steps events).state :=
  (serves_conducted steady).later_after honours (Record.throughout (fun _ _ _ => trivial) c)

/-- After a restart, a call and whatever else was done, all flows have gone on from what the call
left. -/
theorem resumed (steady : κ.Kept steps) (d : Desk H) (before : List (Event H F)) (call : Call)
    (between : List (Event H F)) :
    let c := ((Record.restarted d).after steps before).happen steps (.call call)
    (c.after steps between).Honours (conducted κ) ∧ (c.after steps between).Counted ∧
      Advanced κ c.state (c.after steps between).state := by
  intro c
  have honours : c.Honours (conducted κ) := steady.happen (steady.honours d before) (.call call)
  have counted : c.Counted :=
    Record.counted_happen (Record.counted_after (Record.counted_restarted d) before) (.call call)
  exact ⟨steady.after honours between, Record.counted_after counted between,
    steady.advanced honours between⟩

/-- A call is tracked that relies on all flows to keep to the conduct. -/
theorem tracks (steady : κ.Kept steps) (honours : c.Honours (conducted κ)) (counted : c.Counted)
    {call : Call} {π : Protocol (Desk H) (.desk F)} {post : Post (Desk H) (.desk F) Answer}
    (obeys : (call.job steps).Obeys π post [] c.state)
    (finds : ∀ q r s t, t.InPlace → Advanced κ s t → π.finds q r s t) (later : List (Event H F)) :
    Chronicle.Tracks c.begun π post ((c.happen steps (.call call)).after steps later) := by
  have old : c.begun < (c.happen steps (.call call)).begun := by
    rw [Record.happen, c.begun_start]
    exact Nat.lt_succ_self _
  exact Record.tracks_served (serves_conducted steady)
    (fun q r s t _ kept advanced => finds q r s t kept advanced) (steady.happen honours _) old
    (Record.tracks_call counted obeys) (Record.throughout (fun _ _ _ => trivial) _)

end Conduct.Kept

/-! A start whose first step shows a form at once. -/

/-- The flow is listed with that form, which is answered. -/
theorem prompt_answers {kind : FlowKind} {memory memory' : H} {c : Context} {step : String}
    {data : Option Data} {page : Page} {f : Flow H}
    {post : Post (Desk H) (.desk F) (Except FlowError FlowResult)}
    (done : steps step data memory = .done (.ok (.form page), memory'))
    (shown : f =
      { kind, memory := memory', context := c, step := page.step, schema := page.schema })
    (ends : ∀ r t, r.body = .form page → t.flows[c.flowId]? = some f → post heard (.ok (.ok r)) t) :
    Action.OpensBy steps .prompt post heard d kind memory c step data := by
  refine ⟨trivial, trivial, Action.obeys_underWay ?_⟩
  have here : (d.issue.2.enroll kind memory c step).flows[c.flowId]? =
      some { kind, memory, context := c, step, schema := .empty, busy := true } := by
    rw [flow_enroll, if_pos rfl]
  rw [Action.obeys_takeStep_iff here, done]
  refine ⟨trivial, trivial, trivial, ends _ _ rfl ?_⟩
  change (((d.issue.2.enroll kind memory c step).modifyFlow c.flowId _).modifyFlow c.flowId _
    |>.modifyFlow c.flowId _).flows[c.flowId]? = _
  simp only [flow_modifyFlow_self, here, shown]
  rfl

theorem prompt_opens {kind : FlowKind} {memory memory' : H} {c : Context} {step : String}
    {data : Option Data} {page : Page} {f : Flow H}
    (done : steps step data memory = .done (.ok (.form page), memory'))
    (shown : f =
      { kind, memory := memory', context := c, step := page.step, schema := page.schema }) :
    Action.OpensBy steps .prompt (fun _ _ t => t.flows[c.flowId]? = some f) heard d kind memory c
      step data :=
  prompt_answers done shown fun _ _ _ here => here

/-- What a call that asks for nothing leaves is the desk after it. -/
theorem prompt_call {r : Record H F} {call : Call} {P : Desk H → Prop}
    (obeys : (call.action steps).run.Obeys .prompt (fun _ _ t => P t) [] r.state) :
    P (r.happen steps (.call call)).state := by
  have job : (call.job steps).Obeys .prompt (fun _ _ t => P t) [] r.state := obeys_map.mpr obeys
  obtain ⟨_, left⟩ := Chronicle.follow_prompt (p := ⟨r.begun, some (call.flow r.state)⟩)
    (c := { r with begun := r.begun + 1 }) job
  exact left

end Calls

end Desk

end Onboarding
