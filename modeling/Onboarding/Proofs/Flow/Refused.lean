import Onboarding.Proofs.Flow.Turns

/-! Calls that are refused. A call is refused by what the desk is like before it takes a step, and
leaves the desk as it found it. Whatever another call writes is about its own flow or beside all
flows, and a start that fails takes its flow off the lists again. -/
namespace Onboarding

variable {H : Type} {F : Signature}

/-- The error is one that calls are refused with. -/
def FlowError.Refuses : FlowError → Prop
  | unknownHandler _ | unknownFlow _ | unknownEntry _ | optionsNotSupported _ | rejected _ => True
  | unknownStep _ | registry _ => False

namespace Desk

open Job

variable {d t : Desk H} {id g : String} {input : Data} {r : FlowError} {steps : Steps H F}
  {heard : List (Heard (Desk H) (.desk F))}

/-- What a submit is refused with that has the turn on a flow. -/
def turnRefusal (d : Desk H) (id : String) (input : Data) : Option FlowError :=
  match d.flows[id]? with
  | none => some (.unknownFlow id)
  | some f =>
    if f.finished then some (.unknownFlow id)
    else match f.schema.validate input with
      | .error r => some (.rejected r)
      | .ok _ => none

/-- What a call is refused with at once. A submit that has to wait for the turn is refused in its
turn, or not at all. -/
def refusal (d : Desk H) : Call → Option FlowError
  | .start handler _ _ =>
    match d.integrations[handler]? with
    | none => some (.unknownHandler handler)
    | some _ => none
  | .startReauth entryId =>
    match d.registry.get? entryId with
    | none => some (.unknownEntry entryId)
    | some e =>
      match d.integrations[e.domain]? with
      | none => some (.unknownHandler e.domain)
      | some _ => none
  | .startOptions entryId =>
    match d.registry.get? entryId with
    | none => some (.unknownEntry entryId)
    | some e =>
      match d.integrations[e.domain]? with
      | none => some (.unknownHandler e.domain)
      | some i => if (i.options e).isSome then none else some (.optionsNotSupported e.domain)
  | .submit id input =>
    if id ∈ d.listed then
      if d.flows[id]?.any Flow.busy then none else d.turnRefusal id input
    else some (.unknownFlow id)

/-- How a call is refused that was made at a desk: at once, or in the turn that it had to wait for,
by what it finds then. It has asked for nothing but the turn, and leaves what it finds. -/
inductive RefusedAt (d : Desk H) :
    Call → FlowError → List (Heard (Desk H) (.desk F)) → Desk H → Prop where
  | atOnce {call : Call} {r : FlowError} (refused : d.refusal call = some r) :
    RefusedAt d call r [] d
  | inTurn {id : String} {input : Data} {r : FlowError} {t : Desk H} (listed : id ∈ d.listed)
    (busy : d.Busy id) (refused : t.turnRefusal id input = some r) :
    RefusedAt d (.submit id input) r [⟨.awaitFlow id, (), t⟩] t

/-- The turn on a flow is granted only while nobody has it; else anything may happen. -/
def granting (H : Type) (F : Signature) : Terms (Desk H) (.desk F) where
  finds
    | .awaitFlow id, _, _, t => ¬ t.Busy id
    | _, _, _, _ => True
  writes _ _ _ := True

/-! A submit on a listed flow goes on in its turn. -/

theorem run_submit (steps : Steps H F) (id : String) (input : Data) :
    (Action.submit steps id input).run = (get >>= fun d =>
      if id ∉ d.listed then throw (FlowError.unknownFlow id) else
        Action.inTurn id (Action.answering steps id input) : Action H F FlowResult).run := rfl

theorem obeys_submit_free {π : Protocol (Desk H) (.desk F)}
    {post : Post (Desk H) (.desk F) (Except FlowError FlowResult)} (listed : id ∈ d.listed)
    (free : ¬ d.Busy id) : (Action.submit steps id input).run.Obeys π post heard d ↔
      (turnJob steps id input).Obeys π post heard d := by
  have untaken : ¬ d.flows[id]?.any Flow.busy = true := free
  rw [run_submit, obeys_run_get_bind, if_neg fun unlisted => unlisted listed]
  change Obeys _ _ (if d.flows[id]?.any Flow.busy = true then _ else _ : Work H F _) heard d ↔ _
  rw [if_neg untaken]
  exact Iff.rfl

theorem obeys_submit_busy {π : Protocol (Desk H) (.desk F)}
    {post : Post (Desk H) (.desk F) (Except FlowError FlowResult)} (listed : id ∈ d.listed)
    (busy : d.Busy id) : (Action.submit steps id input).run.Obeys π post heard d ↔
      π.waits heard (.awaitFlow id) d ∧ ∀ r t, π.finds (.awaitFlow id) r d t →
        (turnJob steps id input).Obeys π post (heard ++ [⟨.awaitFlow id, r, t⟩]) t := by
  have taken : d.flows[id]?.any Flow.busy = true := busy
  rw [run_submit, obeys_run_get_bind, if_neg fun unlisted => unlisted listed]
  change Obeys _ _ (if d.flows[id]?.any Flow.busy = true then _ else _ : Work H F _) heard d ↔ _
  rw [if_pos taken]
  exact Iff.rfl

/-! A call that is refused takes no step, and leaves the desk as it is. -/

/-- A turn that is taken and given back again leaves nothing behind. -/
theorem taken_freed (free : ¬ d.Busy id) :
    (d.modifyFlow id ({ · with busy := true })).modifyFlow id ({ · with busy := false }) = d := by
  have flows : (((d.modifyFlow id ({ · with busy := true })).modifyFlow id
      ({ · with busy := false })).flows) = d.flows := by
    apply Std.ExtTreeMap.ext_getElem?
    intro other
    rw [flow_modifyFlow, flow_modifyFlow]
    cases here : d.flows[other]? with
    | none => rfl
    | some f =>
      by_cases same : id = other
      · subst same
        have idle : f.busy = false := by simpa [Busy, here] using free
        simp [← idle]
      · simp [same]
  have rest : (d.modifyFlow id ({ · with busy := true })).modifyFlow id ({ · with busy := false }) =
      { d with flows := ((d.modifyFlow id ({ · with busy := true })).modifyFlow id
        ({ · with busy := false })).flows } := rfl
  rw [rest, flows]

theorem turnRefusal_taken (d : Desk H) (id : String) (input : Data) :
    (d.modifyFlow id ({ · with busy := true })).turnRefusal id input = d.turnRefusal id input := by
  rw [turnRefusal, turnRefusal, flow_modifyFlow_self]
  cases d.flows[id]? <;> rfl

theorem advance_answering_refused (refused : d.turnRefusal id input = some r) :
    advance (Action.answering steps id input).run d = (.done (.error r), d) := by
  rw [Action.answering, advance_run_get_bind]
  unfold turnRefusal at refused
  cases here : d.flows[id]? with
  | none =>
    simp only [here, Option.some.injEq] at refused
    subst refused
    rfl
  | some f =>
    simp only [here] at refused ⊢
    split at refused
    · rename_i finished
      rw [if_pos finished]
      cases refused
      rfl
    rename_i unfinished
    rw [if_neg unfinished]
    cases valid : f.schema.validate input with
    | ok clean => simp [valid] at refused
    | error x =>
      simp only [valid, Option.some.injEq] at refused ⊢
      subst refused
      rfl

theorem advance_turnJob_refused (refused : d.turnRefusal id input = some r) (free : ¬ d.Busy id)
    (steps : Steps H F) : advance (turnJob steps id input) d = (.done (.error r), d) := by
  rw [← turnRefusal_taken] at refused
  rw [turnJob, advance_modify_bind, advance_closing, advance_answering_refused refused]
  change (Stage.done (Except.error r), (d.modifyFlow id ({ · with busy := true })).modifyFlow id
    ({ · with busy := false })) = _
  rw [taken_freed free]

theorem advance_integration {domain : String} {f : Integration H → Action H F FlowResult}
    (absent : d.integrations[domain]? = none) :
    advance (Action.integration domain >>= f).run d =
      (.done (.error (.unknownHandler domain)), d) := by
  rw [Action.integration, bind_assoc, advance_run_get_bind, absent]
  rfl

theorem advance_integration_of {domain : String} {i : Integration H}
    {f : Integration H → Action H F FlowResult} (found : d.integrations[domain]? = some i) :
    advance (Action.integration domain >>= f).run d = advance (f i).run d := by
  rw [Action.integration, bind_assoc, advance_run_get_bind, found]
  rfl

theorem advance_entry {id : String} {f : Entry → Action H F FlowResult}
    (absent : d.registry.get? id = none) :
    advance (Action.entry id >>= f).run d = (.done (.error (.unknownEntry id)), d) := by
  rw [Action.entry, bind_assoc, advance_run_get_bind, absent]
  rfl

theorem advance_entry_of {id : String} {e : Entry} {f : Entry → Action H F FlowResult}
    (held : d.registry.get? id = some e) :
    advance (Action.entry id >>= f).run d = advance (f e).run d := by
  rw [Action.entry, bind_assoc, advance_run_get_bind, held]
  rfl

/-- A call that is refused at once ends at once, whatever the steps of the flows are. -/
theorem Call.advance_refused {call : Call} (refused : d.refusal call = some r)
    (steps : Steps H F) : advance (call.action steps).run d = (.done (.error r), d) := by
  unfold refusal at refused
  cases call with
  | start handler source data =>
    dsimp only at refused
    split at refused
    · rename_i absent
      cases refused
      exact advance_integration absent
    · cases refused
  | startReauth entryId =>
    dsimp only at refused
    split at refused
    · rename_i absent
      cases refused
      exact advance_entry absent
    rename_i e held
    refine (advance_entry_of held).trans ?_
    split at refused
    · rename_i absent
      cases refused
      exact advance_integration absent
    · cases refused
  | startOptions entryId =>
    dsimp only at refused
    split at refused
    · rename_i absent
      cases refused
      exact advance_entry absent
    rename_i e held
    refine (advance_entry_of held).trans ?_
    split at refused
    · rename_i absent
      cases refused
      exact advance_integration absent
    rename_i i found
    refine (advance_integration_of found).trans ?_
    split at refused
    · cases refused
    rename_i lacking
    cases refused
    rw [Option.not_isSome_iff_eq_none] at lacking
    rw [lacking]
    rfl
  | submit id input =>
    dsimp only at refused
    change advance (ExceptT.run (if id ∉ d.listed then throw (FlowError.unknownFlow id) else
      Action.inTurn id (Action.answering steps id input) : Action H F FlowResult)) d = _
    split at refused
    · rename_i listed
      rw [if_neg fun unlisted => unlisted listed]
      change advance (if d.flows[id]?.any Flow.busy = true then _ else _ : Work H F _) d = _
      split at refused
      · cases refused
      · rename_i free
        rw [if_neg free]
        exact advance_turnJob_refused refused free steps
    · rename_i unlisted
      rw [if_pos unlisted]
      cases refused
      rfl

/-! What is written for one flow leaves the others alone. -/

/-- The flow is listed as before, and if it is, it is as before; and so is its row. -/
structure Untouched (id : String) (d t : Desk H) : Prop where
  listed : id ∈ t.listed ↔ id ∈ d.listed
  flow : id ∈ d.listed → t.flows[id]? = d.flows[id]?
  row : t.progress[id]? = d.progress[id]?

namespace Untouched

theorem refl (id : String) (d : Desk H) : Untouched id d d := ⟨Iff.rfl, fun _ => rfl, rfl⟩

theorem trans {u : Desk H} (first : Untouched id d t) (second : Untouched id t u) :
    Untouched id d u where
  listed := second.listed.trans first.listed
  flow member := (second.flow (first.listed.mpr member)).trans (first.flow member)
  row := second.row.trans first.row

theorem of_beside (beside : Beside d t) (id : String) : Untouched id d t where
  listed := by rw [beside.listed]
  flow _ := by rw [beside.flows]
  row := by rw [beside.progress]

theorem of_revision {onFlow : Flow H → Flow H} {onRow : Progress → Progress}
    (revision : Revision g onFlow onRow d t) (other : id ≠ g) : Untouched id d t where
  listed := by rw [revision.listed]
  flow _ := flow_of_map revision.flow fun same => other (Option.some.inj same).symm
  row := by
    rw [revision.row, Option.map_congr fun f _ => if_neg other.symm]
    exact Option.map_id' ..

theorem of_retirement {onFlow : Flow H → Flow H} (retirement : Retirement g onFlow d t)
    (other : id ≠ g) : Untouched id d t where
  listed := by
    rw [retirement.listed]
    exact and_iff_right other.symm
  flow _ := flow_of_map retirement.flow fun same => other (Option.some.inj same).symm
  row := by rw [retirement.row, if_neg other.symm]

theorem enroll (d : Desk H) (kind : FlowKind) (memory : H) {c : Context} (step : String)
    (other : id ≠ c.flowId) : Untouched id d (d.enroll kind memory c step) where
  listed := by
    rw [listed_enroll]
    exact or_iff_right other.symm
  flow _ := by rw [flow_enroll, if_neg other.symm]
  row := by simp [Desk.enroll, Std.ExtTreeMap.getElem?_insert, other.symm]

end Untouched

/-- What a call on a flow owes to all others: it leaves them alone. -/
def alone (F : Signature) (g : String) : Protocol (Desk H) (.desk F) where
  finds _ _ _ _ := True
  writes _ s t := ∀ id, id ≠ g → Untouched id s t
  waits _ _ _ := True

/-- Whatever the call fails with, it is not refused. -/
def Unrefused {α : Type} (ended : Except Crash (Except FlowError α)) : Prop :=
  ∀ r, ended = .ok (.error r) → ¬ r.Refuses

section Alone

variable {α : Type}

theorem unrefused_ok (a : α) : Unrefused (.ok (.ok a)) := by
  rintro r ⟨⟩

theorem unrefused_registry (e : RegistryError) :
    Unrefused (.ok (.error (.registry e)) : Except Crash (Except FlowError α)) := by
  rintro r ⟨⟩ refuses
  exact refuses

theorem unrefused_crash (x : Crash) : Unrefused (.error x : Except Crash (Except FlowError α)) := by
  rintro r ⟨⟩

theorem alone_mark (d : Desk H) (g : String) (onFlow : Flow H → Flow H) :
    (alone F g).writes heard d (d.modifyFlow g onFlow) :=
  fun _ other => .of_revision (d.revision_modifyFlow g onFlow) other

theorem alone_delist (d : Desk H) (g : String) : (alone F g).writes heard d (d.delist g) :=
  fun _ other => .of_retirement (d.retirement_delist g) other

theorem alone_close (d : Desk H) (g : String) : (alone F g).writes heard d (d.close g) :=
  fun _ other => .of_retirement (d.retirement_close g) other

theorem alone_beside (g : String) (beside : Beside d t) : (alone F g).writes heard d t :=
  fun id _ => .of_beside beside id

theorem obeys_host_alone {a : Registry.Action α} (cycles : a.Cycles) :
    (Work.host a : Work H F (Except RegistryError α)).Obeys (alone F g) (fun _ _ _ => True) heard
      d :=
  Work.obeys_host cycles (I := fun _ _ => True)
    (fun _ _ _ _ _ => ⟨alone_beside g ⟨rfl, rfl, rfl⟩, trivial⟩) (fun _ _ _ _ => trivial)
    (fun _ _ _ _ _ _ _ => trivial) trivial

theorem obeys_answer_alone (q : StepRequest F) :
    (Work.answer g q : Work H F q.Reply).Obeys (alone F g) (fun _ _ _ => True) heard d := by
  cases q with
  | context => trivial
  | registry => trivial
  | claim uniqueId exclusive =>
    refine ⟨fun id other => ?_, trivial⟩
    change Untouched id d (d.claim g uniqueId exclusive).2
    unfold Desk.claim
    dsimp only
    split
    · exact .refl id d
    · exact .of_revision (d.revision_both g
        (fun f => { f with context := { f.context with uniqueId := some uniqueId } })
        ({ · with uniqueId := some uniqueId })) other
  | update entryId u => exact ⟨alone_beside g ⟨rfl, rfl, rfl⟩, trivial⟩
  | reload entryId => exact obeys_host_alone (Registry.Action.cycles_reload entryId)
  | outside q => exact ⟨trivial, fun _ _ _ => trivial⟩

theorem obeys_program_alone (p : Prog (.step F) α) :
    Obeys (alone F g) (fun _ _ _ => True) (p.interpret (Work.answer (H := H) g)) heard d := by
  induction p generalizing heard d with
  | done => trivial
  | crash => trivial
  | ask q next ih =>
    refine obeys_bind.mpr (obeys_imp (fun heard ended t _ => ?_) (obeys_answer_alone q))
    cases ended with
    | ok r => exact ih r
    | error x => trivial

theorem obeys_carryOut_alone (kind : FlowKind) (c : Context) (title : String)
    (data options : Data) :
    (Action.carryOut kind c title data options : Action H F FlowResult.Body).run.Obeys (alone F g)
      (fun _ ended _ => Unrefused (ended.map (·.map (Action.result c)))) heard d := by
  cases kind with
  | config =>
    refine Action.obeys_registerEntry rfl (alone_beside g ⟨rfl, rfl, rfl⟩)
      (alone_beside g ⟨rfl, rfl, rfl⟩) (fun i _ => unrefused_ok _)
      (fun e _ _ => unrefused_registry e) fun e _ => ?_
    refine obeys_imp (fun heard ended t _ => ?_)
      (obeys_host_alone (Registry.Action.cycles_setUp e.id))
    cases ended with
    | ok _ => exact unrefused_ok _
    | error x => exact unrefused_crash x
  | options =>
    refine Action.obeys_storeOptions (unrefused_ok _) fun entryId _ => ?_
    refine ⟨alone_beside g ⟨rfl, rfl, rfl⟩, fun ended ends => ?_⟩
    rcases ends with ⟨e, rfl⟩ | rfl
    · exact unrefused_registry e
    · exact unrefused_ok _

theorem obeys_settle_alone (kind : FlowKind) (ending : Except StepError Outcome) (memory : H) :
    (Action.settle g kind (ending, memory) : Action H F FlowResult).run.Obeys (alone F g)
      (fun _ ended _ => Unrefused ended) heard d := by
  have notes : (alone F g).writes heard d (d.modifyFlow g ({ · with memory })) := alone_mark d g _
  have closes : (alone F g).writes heard (d.modifyFlow g ({ · with memory }))
      ((d.modifyFlow g ({ · with memory })).close g) := alone_close _ g
  match ending with
  | .ok (.form p) =>
    refine ⟨notes, fun id other => ?_, unrefused_ok _⟩
    exact .of_revision (revision_both _ g
      (fun f => { f with step := p.step, schema := p.schema })
      ({ · with step := some p.step })) other
  | .ok (.abort reason) => exact ⟨notes, closes, unrefused_ok _⟩
  | .ok (.create title data options) =>
    exact Action.obeys_settle_create notes closes
      (obeys_carryOut_alone kind _ title data options)
  | .error (.abort reason) => exact ⟨notes, closes, unrefused_ok _⟩
  | .error (.unknownStep step) =>
    refine ⟨notes, ?_⟩
    rintro r ⟨⟩ refuses
    exact refuses
  | .error (.registry e) => exact ⟨notes, unrefused_registry e⟩

theorem obeys_takeStep_alone {f : Flow H} (here : d.flows[g]? = some f) (step : String)
    (input : Option Data) :
    (Action.takeStep steps g step input).run.Obeys (alone F g) (fun _ ended _ => Unrefused ended)
      heard d := by
  rw [Action.obeys_takeStep_iff here]
  refine obeys_imp (fun heard ended t _ => ?_) (obeys_program_alone _)
  match ended with
  | .ok (ending, memory) => exact obeys_settle_alone f.kind ending memory
  | .error x => exact unrefused_crash x

theorem answerable_of_unrefused (goes : d.turnRefusal id input = none) :
    ∃ f clean, Action.Answerable d id input f clean := by
  unfold turnRefusal at goes
  split at goes
  · cases goes
  rename_i f here
  split at goes
  · cases goes
  rename_i unfinished
  split at goes
  · cases goes
  rename_i clean valid
  exact ⟨f, clean, here, eq_false_of_ne_true unfinished, valid⟩

/-- A submit that is not refused in its turn takes a step, and is not refused any more. -/
theorem obeys_turnJob_alone (goes : d.turnRefusal g input = none) :
    (turnJob steps g input).Obeys (alone F g) (fun _ ended _ => Unrefused ended)
      heard d := by
  rw [← turnRefusal_taken] at goes
  obtain ⟨f, clean, answerable⟩ := answerable_of_unrefused goes
  refine ⟨alone_mark d g _, obeys_closing.mpr ?_⟩
  refine obeys_imp (fun heard ended t goes => ⟨alone_mark t g _, ?_⟩)
    (Action.obeys_answering (fun other e => absurd answerable (other f clean))
      fun f' clean' answers => obeys_takeStep_alone answers.1 f'.step (some clean'))
  cases ended with
  | ok _ => exact goes
  | error x => exact unrefused_crash x

/-- A start that fails was not refused, and has no flow on the lists. -/
def lapsed (g : String) : Post (Desk H) (.desk F) (Except FlowError FlowResult) :=
  fun _ ended t => ∀ r, ended = .ok (.error r) →
    ¬ r.Refuses ∧ g ∉ t.listed ∧ t.progress[g]? = none

theorem opensBy_alone {kind : FlowKind} {memory : H} {c : Context} {step : String}
    {data : Option Data} (named : c.flowId = g) :
    Action.OpensBy steps (alone F g) (lapsed g) heard d kind memory c step data := by
  subst named
  refine ⟨alone_beside _ ⟨rfl, rfl, rfl⟩, fun id other => .enroll _ kind memory step other, ?_⟩
  have here : (d.issue.2.enroll kind memory c step).flows[c.flowId]? =
      some { kind, memory, context := c, step, schema := .empty, busy := true } := by
    rw [flow_enroll, if_pos rfl]
  refine Action.obeys_underWay (obeys_imp (fun heard ended t goes => ?_)
    (obeys_takeStep_alone here step data))
  refine ⟨alone_mark t c.flowId _, ?_⟩
  match ended with
  | .ok (.ok a) => rintro r ⟨⟩
  | .error x => rintro r ⟨⟩
  | .ok (.error e) =>
    have retirement := retirement_delist (t.modifyFlow c.flowId ({ · with busy := false })) c.flowId
    refine ⟨alone_delist _ c.flowId, ?_⟩
    rintro r ⟨⟩
    refine ⟨goes e rfl, fun member => ((retirement.listed _).mp member).1 rfl, ?_⟩
    rw [retirement.row, if_pos rfl]

end Alone

theorem Call.Starts.flow {call : Call} (starts : call.Starts) :
    call.flow d = Issue.id d.issued := by
  cases call with
  | submit id input => exact starts.elim
  | _ => rfl

/-- A start that is not refused leaves all other flows alone. -/
theorem Call.obeys_start_alone {call : Call} (starts : call.Starts)
    (goes : d.refusal call = none) :
    (call.action steps).run.Obeys (alone F (call.flow d)) (lapsed (call.flow d)) [] d := by
  unfold refusal at goes
  cases call with
  | start handler source data =>
    dsimp only at goes
    split at goes
    · cases goes
    rename_i i found
    refine Action.obeys_startConfig (fun absent _ => ?_) fun i _ => opensBy_alone rfl
    cases absent.symm.trans found
  | startReauth entryId =>
    dsimp only at goes
    split at goes
    · cases goes
    rename_i e held
    split at goes
    · cases goes
    rename_i i found
    exact Action.obeys_startReauth_at held found (opensBy_alone rfl)
  | startOptions entryId =>
    dsimp only at goes
    split at goes
    · cases goes
    rename_i e held
    split at goes
    · cases goes
    rename_i i found
    split at goes
    · rename_i has
      obtain ⟨memory, has⟩ := Option.isSome_iff_exists.mp has
      exact Action.obeys_startOptions_at held found has (opensBy_alone rfl)
    · cases goes
  | submit id input => exact starts.elim

/-- A call that is neither refused at once nor has to wait for its turn is not refused. -/
theorem Call.obeys_unrefused {call : Call} (goes : d.refusal call = none)
    (free : ∀ id input, call = .submit id input → ¬ d.Busy id) :
    (call.action steps).run.Obeys (alone F (call.flow d)) (fun _ ended _ => Unrefused ended)
      [] d := by
  cases call with
  | submit id input =>
    have untaken : ¬ d.flows[id]?.any Flow.busy = true := free id input rfl
    by_cases listed : id ∈ d.listed
    · rw [refusal, if_pos listed, if_neg untaken] at goes
      exact (obeys_submit_free listed untaken).mpr (obeys_turnJob_alone goes)
    · rw [refusal, if_neg listed] at goes
      cases goes
  | _ =>
    exact obeys_imp (fun _ _ _ fails r failed => (fails r failed).1)
      (Call.obeys_start_alone trivial goes)

/-- A call that ends with a refusal was refused before it took a step. -/
theorem Call.ensures_refused (call : Call) (d : Desk H) (steps : Steps H F) :
    (call.action steps).run.Ensures (granting H F)
      (fun heard ended t => ∀ r, ended = .ok (.error r) → r.Refuses → RefusedAt d call r heard t)
      [] d := by
  have lax {w : Work H F (Except FlowError FlowResult)} {heard : List (Heard (Desk H) (.desk F))}
      {t : Desk H} {g : String}
      (obeys : w.Obeys (alone F g) (fun _ ended _ => Unrefused ended) heard t) :
      w.Ensures (granting H F) (fun heard ended t => ∀ r, ended = .ok (.error r) → r.Refuses →
        RefusedAt d call r heard t) heard t := by
    refine ensures_iff_obeys.mpr (obeys_mono (fun _ _ => True) (fun _ _ _ _ _ _ _ _ => ⟨trivial,
      trivial⟩) (fun _ _ _ _ _ => ⟨trivial, trivial⟩) (fun _ _ _ _ _ => trivial) ?_ trivial obeys)
    intro heard ended t _ goes r failed refuses
    exact absurd refuses (goes r failed)
  cases refused : d.refusal call with
  | some r =>
    refine ensures_of_done (fun _ _ _ => trivial) (call.advance_refused refused steps) ?_
    rintro r' ⟨⟩ _
    exact .atOnce refused
  | none =>
    by_cases queued : ∃ id input, call = .submit id input ∧ d.Busy id
    · obtain ⟨id, input, rfl, busy⟩ := queued
      have listed : id ∈ d.listed := by
        by_contra unlisted
        simp [refusal, unlisted] at refused
      change (Action.submit steps id input).run.Ensures _ _ [] d
      rw [ensures_iff_obeys, obeys_submit_busy listed busy]
      refine ⟨trivial, fun _ t free => ensures_iff_obeys.mp ?_⟩
      cases refused : t.turnRefusal id input with
      | some r =>
        refine ensures_of_done (fun _ _ _ => trivial)
          (advance_turnJob_refused refused free steps) ?_
        rintro r' ⟨⟩ _
        exact .inTurn listed busy refused
      | none => exact lax (obeys_turnJob_alone refused)
    · refine lax (call.obeys_unrefused refused fun id input same busy => ?_)
      exact queued ⟨id, input, same, busy⟩

/-- While a call waits, the others leave certain flows alone. -/
def leaving (H : Type) (F : Signature) (kept : String → Prop) : Terms (Desk H) (.desk F) where
  finds _ _ s t := ∀ id, kept id → Untouched id s t
  writes _ _ _ := True

/-- A start that fails leaves the table of the flows as it was, as far as the others do. -/
theorem Call.ensures_start_failed {u : Practice H} {call : Call} (starts : call.Starts)
    (sound : d.Sound u) (kept : String → Prop) (steps : Steps H F) :
    (call.action steps).run.Ensures (leaving H F kept) (fun _ ended t =>
      ∀ r, ended = .ok (.error r) → ∀ id, kept id ∨ id = call.flow d → Untouched id d t) [] d := by
  cases refused : d.refusal call with
  | some r =>
    refine ensures_of_done (fun _ _ _ => trivial) (call.advance_refused refused steps) ?_
    rintro r' ⟨⟩ id _
    exact .refl id d
  | none =>
    refine ensures_iff_obeys.mpr (obeys_mono (fun _ t => ∀ id, kept id → id ≠ call.flow d →
      Untouched id d t) (fun heard q r s t others _ found => ⟨trivial, fun id keeps other => ?_⟩)
      (fun heard s t others writes => ⟨trivial, fun id keeps other => ?_⟩)
      (fun _ _ _ _ _ => trivial) (fun heard ended t others fails r failed id which => ?_)
      (fun id _ _ => .refl id d) (call.obeys_start_alone starts refused))
    · exact (others id keeps other).trans (found id keeps)
    · exact (others id keeps other).trans (writes id other)
    · by_cases itself : id = call.flow d
      · subst itself
        obtain ⟨_, unlisted, rowless⟩ := fails r failed
        have fresh : call.flow d ∉ d.listed := by
          rw [starts.flow]
          exact sound.unlisted_fresh
        refine ⟨⟨fun member => absurd member unlisted, fun member => absurd member fresh⟩,
          fun member => absurd member fresh, rowless.trans ?_⟩
        have absent := mt (sound.tabled.rows (call.flow d)).mp fresh
        rw [Std.ExtTreeMap.getElem?_eq_none absent]
      · exact others id (which.resolve_right itself) itself

end Desk

end Onboarding
