import Onboarding.Proofs.Flow.Writes
import Onboarding.Proofs.Job.Ensures

/-! Rules for the calls on a desk: what a call comes to, on any protocol, is told by what its parts
come to. A submit takes the step that its form belongs to, a start lists a flow and takes its first
step, and what the step decides is settled. For terms the rules follow from those for protocols. -/
namespace Onboarding.Desk

open Job

variable {H : Type} {F : Signature} {d : Desk H} {heard : List (Heard (Desk H) (.desk F))}
  {π : Protocol (Desk H) (.desk F)} {T : Terms (Desk H) (.desk F)} {steps : Steps H F} {id : String}

/-- What a call hears of its registry. -/
def hosted : Heard (Desk H) (.desk F) → Option (Heard Registry .hosting)
  | ⟨.hosting q, reply, d⟩ => some ⟨q, reply, d.registry⟩
  | _ => none

/-- An action of the registry comes on a desk to what it comes to on the registry alone. -/
theorem Work.ensures_host {α : Type} {a : Registry.Action α} {S : Terms Registry .hosting}
    {post : Post Registry .hosting (Except RegistryError α)}
    (finds : ∀ q r s t, T.finds (.hosting q) r s t → S.finds q r s.registry t.registry)
    (writes : ∀ heard s r, T.writes heard s { s with registry := r })
    (ensures : a.run.Ensures S post (heard.filterMap hosted) d.registry) :
    (host a : Work H F (Except RegistryError α)).Ensures T
      (fun heard ended t => post (heard.filterMap hosted) ended t.registry) heard d := by
  unfold host within
  generalize a.run = j at ensures
  induction j generalizing heard d with
  | done => exact ensures
  | crash => exact ensures
  | ask q next ih =>
    match q with
    | .read => exact ih d.registry ensures
    | .write r => exact ⟨writes heard d r, ih () ensures.2⟩
    | .outside q =>
      intro r t found
      refine ih r ?_
      rw [List.filterMap_append]
      exact ensures r t.registry (finds q r d t found)

/-- An action of the registry that makes moves of its lifecycle keeps to a protocol that has room for
these, whatever it waits for. -/
theorem Work.obeys_host {α : Type} {a : Registry.Action α} (cycles : a.Cycles)
    {I : List (Heard (Desk H) (.desk F)) → Desk H → Prop}
    (moves : ∀ heard d r, I heard d → Registry.Lifecycle d.registry r →
      π.writes heard d { d with registry := r } ∧ I heard { d with registry := r })
    (waits : ∀ heard q d, I heard d → π.waits heard (.hosting q) d)
    (finds : ∀ heard q r d t, I heard d → π.finds (.hosting q) r d t →
      I (heard ++ [⟨.hosting q, r, t⟩]) t)
    (start : I heard d) :
    (host a : Work H F (Except RegistryError α)).Obeys π (fun heard _ t => I heard t) heard d := by
  have keeps := cycles d.registry trivial
  unfold host within
  generalize a.run = j at keeps
  clear cycles
  induction j generalizing heard d with
  | done => exact start
  | crash => exact start
  | ask q next ih =>
    match q with
    | .read => exact ih d.registry start keeps
    | .write r =>
      obtain ⟨written, kept⟩ := moves heard d r start keeps.1.2
      exact ⟨written, ih () kept keeps.2⟩
    | .outside q =>
      refine ⟨waits heard q d start, ?_⟩
      intro r t found
      exact ih r (finds heard q r d t start found) (keeps r t.registry trivial)

namespace Action

/-- The entry that a flow decided on, under the id that is given out next. -/
def candidate (d : Desk H) (c : Context) (title : String) (data options : Data) : Entry :=
  { Entry.new (Issue.id d.issued) c.handler title d.now with
    data, options, source := c.source, version := c.version, uniqueId := c.uniqueId }

/-- What a flow whose entry is to be added goes on to do. -/
def afterAdding (c : Context) (title : String) (data options : Data) :
    Except RegistryError Entry → Action H F FlowResult.Body
  | .error (.alreadyExists _) => pure (.aborted alreadyConfigured)
  | .error e => throw (.registry e)
  | .ok e => do
    let _ ← ExceptT.lift (Work.host (Registry.Action.setUp e.id))
    return .created title data options c.version (some e.id)

/-- What becomes of an entry that a flow decided on is decided by whether it can be added. -/
theorem obeys_registerEntry {d' : Desk H} {c : Context} {title : String}
    {post : Post (Desk H) (.desk F) (Except FlowError FlowResult.Body)}
    {data options : Data} {result : Except RegistryError Entry}
    (added : d.issue.2.mutate (·.add (candidate d c title data options)) = (result, d'))
    (draws : π.writes heard d d.issue.2) (adds : π.writes heard d.issue.2 d')
    (refused : ∀ i, result = .error (.alreadyExists i) →
      post heard (.ok (.ok (.aborted alreadyConfigured))) d')
    (fails : ∀ e, result = .error e → (∀ i, e ≠ .alreadyExists i) →
      post heard (.ok (.error (.registry e))) d')
    (sets : ∀ e, result = .ok e →
      (Work.host (Registry.Action.setUp e.id) : Work H F (Except RegistryError Unit)).Obeys π
        (fun heard ended t => post heard
          (ended.map fun _ => .ok (.created title data options c.version (some e.id))) t)
        heard d') :
    (registerEntry c title data options).run.Obeys π post heard d := by
  have written : (d.issue.2.mutate (·.add (candidate d c title data options))).2 = d' := by
    rw [added]
  refine ⟨draws, written ▸ adds, ?_⟩
  change (afterAdding c title data options
    (d.issue.2.mutate (·.add (candidate d c title data options))).1).run.Obeys π post heard
    (d.issue.2.mutate (·.add (candidate d c title data options))).2
  rw [added]
  cases result with
  | ok e =>
    rw [afterAdding, ExceptT.run_bind_lift]
    exact obeys_map.mpr (sets e rfl)
  | error e =>
    cases e with
    | alreadyExists i => exact refused i rfl
    | _ => exact fails _ rfl (by rintro i ⟨⟩)

theorem ensures_registerEntry {d' : Desk H} {c : Context} {title : String}
    {post : Post (Desk H) (.desk F) (Except FlowError FlowResult.Body)}
    {data options : Data} {result : Except RegistryError Entry}
    (added : d.issue.2.mutate (·.add (candidate d c title data options)) = (result, d'))
    (draws : T.writes heard d d.issue.2) (adds : T.writes heard d.issue.2 d')
    (refused : ∀ i, result = .error (.alreadyExists i) →
      post heard (.ok (.ok (.aborted alreadyConfigured))) d')
    (fails : ∀ e, result = .error e → (∀ i, e ≠ .alreadyExists i) →
      post heard (.ok (.error (.registry e))) d')
    (sets : ∀ e, result = .ok e →
      (Work.host (Registry.Action.setUp e.id) : Work H F (Except RegistryError Unit)).Ensures T
        (fun heard ended t => post heard
          (ended.map fun _ => .ok (.created title data options c.version (some e.id))) t)
        heard d') :
    (registerEntry c title data options).run.Ensures T post heard d := by
  refine ensures_iff_obeys.mpr (obeys_registerEntry added draws adds refused fails fun e entered => ?_)
  exact ensures_iff_obeys.mp (sets e entered)

variable {post : Post (Desk H) (.desk F) (Except FlowError FlowResult)}

/-- What a call does with what a step of its flow has come to. -/
def settle (id : String) (kind : FlowKind) : Except StepError Outcome × H → Action H F FlowResult
  | (ending, memory) => do
    modify (·.modifyFlow id ({ · with memory }))
    match ending with
    | .ok o => conclude id kind o
    | .error (.abort reason) => conclude id kind (.abort reason)
    | .error (.unknownStep step) => throw (.unknownStep step)
    | .error (.registry e) => throw (.registry e)

theorem obeys_result {a : Action H F FlowResult.Body} {c : Context}
    (ends : a.run.Obeys π (fun heard ended t => post heard (ended.map (·.map (result c))) t)
      heard d) :
    (a >>= fun body => pure (result c body)).run.Obeys π post heard d := by
  rw [ExceptT.run_bind]
  refine obeys_bind.mpr (obeys_imp (fun heard ended t ends => ?_) ends)
  match ended with
  | .ok (.ok body) => exact ends
  | .ok (.error e) => exact ends
  | .error x => exact ends

theorem ensures_result {a : Action H F FlowResult.Body} {c : Context}
    (ends : a.run.Ensures T (fun heard ended t => post heard (ended.map (·.map (result c))) t)
      heard d) :
    (a >>= fun body => pure (result c body)).run.Ensures T post heard d :=
  ensures_iff_obeys.mpr (obeys_result (ensures_iff_obeys.mp ends))

/-- What a flow decided on is carried out by its kind. -/
def carryOut (kind : FlowKind) (c : Context) (title : String) (data options : Data) :
    Action H F FlowResult.Body :=
  match kind with
  | .config => registerEntry c title data options
  | .options => storeOptions c title data options

/-- A flow that has decided is ended, and then what it decided on is carried out. -/
theorem obeys_settle_create {kind : FlowKind} {memory : H} {title : String} {data options : Data}
    (notes : π.writes heard d (d.modifyFlow id ({ · with memory })))
    (closes : π.writes heard (d.modifyFlow id ({ · with memory }))
      ((d.modifyFlow id ({ · with memory })).close id))
    (carriesOut : (carryOut kind (d.contextOf id) title data options).run.Obeys π
      (fun heard ended t => post heard (ended.map (·.map (result (d.contextOf id)))) t) heard
      ((d.modifyFlow id ({ · with memory })).close id)) :
    (settle id kind (.ok (.create title data options), memory)).run.Obeys π post heard d := by
  refine ⟨notes, closes, ?_⟩
  rw [← contextOf_modifyFlow d id (g := ({ · with memory })) fun _ => rfl] at carriesOut
  cases kind with
  | config => exact obeys_result carriesOut
  | options => exact obeys_result carriesOut

theorem ensures_settle_create {kind : FlowKind} {memory : H} {title : String} {data options : Data}
    (notes : T.writes heard d (d.modifyFlow id ({ · with memory })))
    (closes : T.writes heard (d.modifyFlow id ({ · with memory }))
      ((d.modifyFlow id ({ · with memory })).close id))
    (carriesOut : (carryOut kind (d.contextOf id) title data options).run.Ensures T
      (fun heard ended t => post heard (ended.map (·.map (result (d.contextOf id)))) t) heard
      ((d.modifyFlow id ({ · with memory })).close id)) :
    (settle id kind (.ok (.create title data options), memory)).run.Ensures T post heard d :=
  ensures_iff_obeys.mpr (obeys_settle_create notes closes (ensures_iff_obeys.mp carriesOut))

/-- The options flow of an entry ends by how the update of the entry does. -/
theorem obeys_storeOptions_entry {d' : Desk H} {c : Context} {title entryId : String}
    {post : Post (Desk H) (.desk F) (Except FlowError FlowResult.Body)} {data options : Data}
    {result : Except RegistryError Bool} (entry : c.entryId = some entryId)
    (updated : d.mutate (·.update entryId { options := some data } d.now) = (result, d'))
    (updates : π.writes heard d d')
    (stores : ∀ changed, result = .ok changed →
      post heard (.ok (.ok (.created title data options c.version none))) d')
    (fails : ∀ e, result = .error e → post heard (.ok (.error (.registry e))) d') :
    (storeOptions c title data options).run.Obeys π post heard d := by
  obtain ⟨flowId, handler, source, version, uniqueId, entryId'⟩ := c
  cases entry
  have written : (d.mutate (·.update entryId { options := some data } d.now)).2 = d' := by
    rw [updated]
  refine ⟨written ▸ updates, ?_⟩
  change (do
    let _ ← ofRegistry (d.mutate (·.update entryId { options := some data } d.now)).1
    return .created title data options version none :
      Action H F FlowResult.Body).run.Obeys _ _ _
    (d.mutate (·.update entryId { options := some data } d.now)).2
  rw [updated]
  cases result with
  | ok changed => exact stores changed rfl
  | error e => exact fails e rfl

/-- The entry of an options flow is updated, if there is one. -/
theorem obeys_storeOptions {c : Context} {title : String}
    {post : Post (Desk H) (.desk F) (Except FlowError FlowResult.Body)} {data options : Data}
    (stores : post heard (.ok (.ok (.created title data options c.version none))) d)
    (updates : ∀ entryId, c.entryId = some entryId →
      π.writes heard d (d.mutate (·.update entryId { options := some data } d.now)).2 ∧
      ∀ ended : Except FlowError FlowResult.Body,
        (∃ e, ended = .error (.registry e)) ∨
          ended = .ok (.created title data options c.version none) →
        post heard (.ok ended) (d.mutate (·.update entryId { options := some data } d.now)).2) :
    (storeOptions c title data options).run.Obeys π post heard d := by
  cases entry : c.entryId with
  | none =>
    obtain ⟨flowId, handler, source, version, uniqueId, entryId⟩ := c
    cases entry
    exact stores
  | some entryId =>
    obtain ⟨written, ends⟩ := updates entryId entry
    exact obeys_storeOptions_entry entry rfl written (fun _ _ => ends _ (.inr rfl))
      fun e _ => ends _ (.inl ⟨e, rfl⟩)

theorem ensures_storeOptions {c : Context} {title : String}
    {post : Post (Desk H) (.desk F) (Except FlowError FlowResult.Body)} {data options : Data}
    (stores : post heard (.ok (.ok (.created title data options c.version none))) d)
    (updates : ∀ entryId, c.entryId = some entryId →
      T.writes heard d (d.mutate (·.update entryId { options := some data } d.now)).2 ∧
      ∀ ended : Except FlowError FlowResult.Body,
        (∃ e, ended = .error (.registry e)) ∨
          ended = .ok (.created title data options c.version none) →
        post heard (.ok ended) (d.mutate (·.update entryId { options := some data } d.now)).2) :
    (storeOptions c title data options).run.Ensures T post heard d :=
  ensures_iff_obeys.mpr (obeys_storeOptions stores updates)

/-- A step is taken by what is remembered of its flow, and then settled. -/
theorem obeys_takeStep_iff {step : String} {input : Option Data} {flow : Flow H}
    (here : d.flows[id]? = some flow) :
    (takeStep steps id step input).run.Obeys π post heard d ↔
      Obeys π (andObeys π (fun r => (settle id flow.kind r).run) post)
        (Prog.interpret (S := .step F) (Work.answer id) (steps step input flow.memory)) heard d := by
  rw [takeStep, obeys_run_get_bind, here, ← obeys_bind, ← ExceptT.run_bind_lift]
  rfl

theorem ensures_takeStep_missing {step : String} {input : Option Data}
    (missing : d.flows[id]? = none) (ends : post heard (.ok (.error (.unknownFlow id))) d) :
    (takeStep steps id step input).run.Ensures T post heard d := by
  rw [takeStep, ensures_run_get_bind, missing]
  exact ends

theorem ensures_takeStep_iff {step : String} {input : Option Data} {flow : Flow H}
    (here : d.flows[id]? = some flow) :
    (takeStep steps id step input).run.Ensures T post heard d ↔
      Ensures T (andThen T (fun r => (settle id flow.kind r).run) post)
        (Prog.interpret (S := .step F) (Work.answer id) (steps step input flow.memory)) heard d := by
  rw [ensures_iff_obeys, obeys_takeStep_iff here, ← obeys_bind, ← ensures_iff_obeys, ensures_bind]

/-- A step that asks nothing is settled at once. -/
theorem ensures_takeStep_done {step : String} {input : Option Data} {flow : Flow H}
    {r : Except StepError Outcome × H} (here : d.flows[id]? = some flow)
    (done : steps step input flow.memory = .done r)
    (settles : (settle id flow.kind r).run.Ensures T post heard d) :
    (takeStep steps id step input).run.Ensures T post heard d := by
  rw [ensures_takeStep_iff here, done]
  exact settles

/-- The rest of a start, once the flow has been listed. -/
def underWay (steps : Steps H F) (id step : String) (data : Option Data) :
    Action H F FlowResult := do
  let ending ← ExceptT.lift ((takeStep steps id step data).run.closing
    (modify (·.modifyFlow id ({ · with busy := false }))))
  match ending with
  | .ok r => return r
  | .error e =>
    modify (·.delist id)
    throw e

/-- What a submit does in its turn. -/
def answering (steps : Steps H F) (id : String) (input : Data) : Action H F FlowResult := do
  match (← get).flows[id]? with
  | none => throw (.unknownFlow id)
  | some flow =>
    if flow.finished then throw (.unknownFlow id)
    match flow.schema.validate input with
    | .error r => throw (.rejected r)
    | .ok input => takeStep steps id flow.step (some input)

/-- What is to hold after a call holds as well once it has given its turn back, and once a flow that
failed to start is off the lists. -/
structure Closes (T : Terms (Desk H) (.desk F))
    (post : Post (Desk H) (.desk F) (Except FlowError FlowResult)) (id : String) : Prop where
  frees : ∀ {heard ended t}, post heard ended t →
    T.writes heard t (t.modifyFlow id ({ · with busy := false })) ∧
      post heard ended (t.modifyFlow id ({ · with busy := false }))
  delists : ∀ {heard e t}, post heard (.ok (.error e)) t →
    T.writes heard t (t.delist id) ∧ post heard (.ok (.error e)) (t.delist id)

theorem ensures_freeing (closes : Closes T post id) {w : Work H F (Except FlowError FlowResult)}
    (ensures : w.Ensures T post heard d) :
    Ensures T post (w.closing (modify (·.modifyFlow id ({ · with busy := false })))) heard d :=
  ensures_closing.mpr (ensures_imp (fun _ _ _ ended => closes.frees ended) ensures)

/-- What is to hold where a start has taken its step: it gives the turn back, and its flow goes off
the lists if the step failed. -/
def beforeReturn (π : Protocol (Desk H) (.desk F)) (id : String)
    (post : Post (Desk H) (.desk F) (Except FlowError FlowResult)) :
    Post (Desk H) (.desk F) (Except FlowError FlowResult)
  | heard, ended, t => π.writes heard t (t.modifyFlow id ({ · with busy := false })) ∧
    match ended with
    | .ok (.error e) =>
      π.writes heard (t.modifyFlow id ({ · with busy := false }))
        ((t.modifyFlow id ({ · with busy := false })).delist id) ∧
        post heard (.ok (.error e)) ((t.modifyFlow id ({ · with busy := false })).delist id)
    | ended => post heard ended (t.modifyFlow id ({ · with busy := false }))

theorem obeys_underWay {step : String} {data : Option Data}
    (takes : (takeStep steps id step data).run.Obeys π (beforeReturn π id post) heard d) :
    (underWay steps id step data).run.Obeys π post heard d := by
  unfold underWay
  rw [ExceptT.run_bind_lift]
  refine obeys_bind.mpr (obeys_closing.mpr (obeys_imp (fun heard ended t ends => ?_) takes))
  obtain ⟨frees, ends⟩ := ends
  refine ⟨frees, ?_⟩
  match ended with
  | .ok (.ok r) => exact ends
  | .ok (.error e) => exact ends
  | .error x => exact ends

theorem ensures_underWay (closes : Closes T post id) {step : String} {data : Option Data}
    (takes : (takeStep steps id step data).run.Ensures T post heard d) :
    (underWay steps id step data).run.Ensures T post heard d := by
  refine ensures_iff_obeys.mpr (obeys_underWay ?_)
  refine ensures_iff_obeys.mp (ensures_imp (fun heard ended t ends => ?_) takes)
  obtain ⟨frees, ends⟩ := closes.frees ends
  refine ⟨frees, ?_⟩
  match ended with
  | .ok (.ok r) => exact ends
  | .ok (.error e) => exact closes.delists ends
  | .error x => exact ends

/-- A flow is there that goes on, and the input is in order for the form that it shows. -/
def Answerable (d : Desk H) (id : String) (input : Data) (flow : Flow H) (clean : Data) : Prop :=
  d.flows[id]? = some flow ∧ flow.finished = false ∧ flow.schema.validate input = .ok clean

/-- An input is answered by the flow as it is found. -/
theorem obeys_answering_at {input : Data} {flow : Flow H} (here : d.flows[id]? = some flow)
    (gone : flow.finished = true → post heard (.ok (.error (.unknownFlow id))) d)
    (rejects : ∀ r, flow.schema.validate input = .error r →
      post heard (.ok (.error (.rejected r))) d)
    (takes : ∀ clean, Answerable d id input flow clean →
      (takeStep steps id flow.step (some clean)).run.Obeys π post heard d) :
    (answering steps id input).run.Obeys π post heard d := by
  rw [answering, obeys_run_get_bind, here]
  dsimp only
  split
  · rename_i ended
    exact gone ended
  rename_i unfinished
  cases validated : flow.schema.validate input with
  | error r => exact rejects r validated
  | ok clean => exact takes clean ⟨here, eq_false_of_ne_true unfinished, validated⟩

/-- An input that is in order is taken to the step that the form belongs to. -/
theorem obeys_answering {input : Data}
    (fails : (∀ flow clean, ¬ Answerable d id input flow clean) → ∀ e,
      post heard (.ok (.error e)) d)
    (takes : ∀ flow clean, Answerable d id input flow clean →
      (takeStep steps id flow.step (some clean)).run.Obeys π post heard d) :
    (answering steps id input).run.Obeys π post heard d := by
  cases here : d.flows[id]? with
  | none =>
    rw [answering, obeys_run_get_bind, here]
    refine fails (fun flow clean answerable => ?_) _
    cases here.symm.trans answerable.1
  | some flow =>
    refine obeys_answering_at here (fun ended => ?_) (fun r rejected => ?_) (takes flow)
    · refine fails (fun flow' clean answerable => ?_) _
      cases here.symm.trans answerable.1
      cases ended.symm.trans answerable.2.1
    · refine fails (fun flow' clean answerable => ?_) _
      cases here.symm.trans answerable.1
      cases rejected.symm.trans answerable.2.2

theorem ensures_answering {input : Data}
    (fails : (∀ flow clean, ¬ Answerable d id input flow clean) → ∀ e,
      post heard (.ok (.error e)) d)
    (takes : ∀ flow clean, Answerable d id input flow clean →
      (takeStep steps id flow.step (some clean)).run.Ensures T post heard d) :
    (answering steps id input).run.Ensures T post heard d :=
  ensures_iff_obeys.mpr (obeys_answering fails fun flow clean answerable =>
    ensures_iff_obeys.mp (takes flow clean answerable))

/-- A submit on a flow off the lists ends at once, and nothing comes of it. -/
theorem ensures_unlisted {input : Data} (unlisted : id ∉ d.listed)
    (ends : post heard (.ok (.error (.unknownFlow id))) d) :
    (submit steps id input).run.Ensures T post heard d := by
  change (if id ∉ d.listed then throw (FlowError.unknownFlow id) else _ :
    Action H F FlowResult).run.Ensures T post heard d
  rw [if_pos unlisted]
  exact ends

/-- A submit comes to what it comes to in its turn, which it waits for while the flow is busy. -/
theorem ensures_submit (closes : Closes T post id) {input : Data} (listed : id ∈ d.listed)
    (answers : ∀ heard' t, (d.flows[id]?.any Flow.busy = false ∧ heard' = heard ∧ t = d ∨
        d.flows[id]?.any Flow.busy = true ∧ T.finds (.awaitFlow id) () d t ∧
          heard' = heard ++ [⟨.awaitFlow id, (), t⟩]) →
      T.writes heard' t (t.modifyFlow id ({ · with busy := true })) ∧
        (answering steps id input).run.Ensures T post heard'
          (t.modifyFlow id ({ · with busy := true }))) :
    (submit steps id input).run.Ensures T post heard d := by
  have turn (heard' : List (Heard (Desk H) (.desk F))) (t : Desk H)
      (answers : T.writes heard' t (t.modifyFlow id ({ · with busy := true })) ∧
        (answering steps id input).run.Ensures T post heard'
          (t.modifyFlow id ({ · with busy := true }))) :
      Ensures T post (.ask (.write (t.modifyFlow id ({ · with busy := true }))) fun _ =>
        (answering steps id input).run.closing
          (modify (·.modifyFlow id ({ · with busy := false })))) heard' t :=
    ⟨answers.1, ensures_freeing closes answers.2⟩
  change (if id ∉ d.listed then throw (FlowError.unknownFlow id) else
    inTurn id (answering steps id input) : Action H F FlowResult).run.Ensures T post heard d
  rw [if_neg fun unlisted => unlisted listed]
  change Ensures T post (if d.flows[id]?.any Flow.busy = true then _ else _ : Work H F _) heard d
  cases busy : d.flows[id]?.any Flow.busy with
  | true => exact fun _ t found => turn _ t (answers _ t (.inr ⟨busy, found, rfl⟩))
  | false => exact turn heard d (answers heard d (.inl ⟨busy, rfl, rfl⟩))

/-- How a flow is listed when it is started: its kind, what it remembers, its context, and its first
step with the data for it. -/
inductive Opening (d : Desk H) : FlowKind → H → Context → String → Option Data → Prop where
  | config {i : Integration H} {handler : String} {source : Source} {data : Option Data}
    (registered : d.integrations[handler]? = some i) :
    Opening d .config i.start ⟨Issue.id d.issued, handler, source, i.version, none, none⟩
      source.key data
  | reauth {i : Integration H} {e : Entry} {entryId : String}
    (held : d.registry.get? entryId = some e)
    (registered : d.integrations[e.domain]? = some i) :
    Opening d .config i.start
      ⟨Issue.id d.issued, e.domain, .reauth, i.version, none, some entryId⟩
      Source.reauth.key (some e.data)
  | options {i : Integration H} {e : Entry} {entryId : String} {memory : H}
    (held : d.registry.get? entryId = some e)
    (registered : d.integrations[e.domain]? = some i) (has : i.options e = some memory) :
    Opening d .options memory ⟨Issue.id d.issued, entryId, .user, 1, none, some entryId⟩ "init" none

theorem Opening.flowId {kind : FlowKind} {memory : H} {c : Context} {step : String}
    {data : Option Data} (opening : Opening d kind memory c step data) :
    c.flowId = Issue.id d.issued := by
  cases opening <;> rfl

/-- A start keeps to a protocol from where its flow is listed. -/
def OpensBy (steps : Steps H F) (π : Protocol (Desk H) (.desk F))
    (post : Post (Desk H) (.desk F) (Except FlowError FlowResult))
    (heard : List (Heard (Desk H) (.desk F))) (d : Desk H) (kind : FlowKind) (memory : H)
    (c : Context) (step : String) (data : Option Data) : Prop :=
  π.writes heard d d.issue.2 ∧ π.writes heard d.issue.2 (d.issue.2.enroll kind memory c step) ∧
    (underWay steps c.flowId step data).run.Obeys π post heard
      (d.issue.2.enroll kind memory c step)

theorem integration_found {domain : String} {i : Integration H}
    {f : Integration H → Action H F FlowResult} (registered : d.integrations[domain]? = some i) :
    (integration domain >>= f).run.Obeys π post heard d ↔ (f i).run.Obeys π post heard d := by
  rw [integration, bind_assoc, obeys_run_get_bind, registered]
  rfl

theorem obeys_integration_bind {domain : String} {f : Integration H → Action H F FlowResult}
    (fails : d.integrations[domain]? = none → ∀ e, post heard (.ok (.error e)) d)
    (others : ∀ i, d.integrations[domain]? = some i → (f i).run.Obeys π post heard d) :
    (integration domain >>= f).run.Obeys π post heard d := by
  cases found : d.integrations[domain]? with
  | none =>
    rw [integration, bind_assoc, obeys_run_get_bind, found]
    exact fails found _
  | some i => exact (integration_found found).mpr (others i found)

theorem entry_found {id : String} {e : Entry} {f : Entry → Action H F FlowResult}
    (held : d.registry.get? id = some e) :
    (entry id >>= f).run.Obeys π post heard d ↔ (f e).run.Obeys π post heard d := by
  rw [entry, bind_assoc, obeys_run_get_bind, held]
  rfl

theorem obeys_entry_bind {id : String} {f : Entry → Action H F FlowResult}
    (fails : ∀ e, post heard (.ok (.error e)) d)
    (others : ∀ e, d.registry.get? id = some e → (f e).run.Obeys π post heard d) :
    (entry id >>= f).run.Obeys π post heard d := by
  cases found : d.registry.get? id with
  | none =>
    rw [entry, bind_assoc, obeys_run_get_bind, found]
    exact fails _
  | some e => exact (entry_found found).mpr (others e found)

theorem obeys_startConfig {handler : String} {source : Source} {data : Option Data}
    (fails : d.integrations[handler]? = none → ∀ e, post heard (.ok (.error e)) d)
    (opens : ∀ i, d.integrations[handler]? = some i → OpensBy steps π post heard d .config i.start
      ⟨Issue.id d.issued, handler, source, i.version, none, none⟩ source.key data) :
    (startConfig steps handler source data).run.Obeys π post heard d :=
  obeys_integration_bind fails fun i found => opens i found

/-- A start for an entry that is there, of an integration that is registered. -/
theorem obeys_startReauth_at {entryId : String} {e : Entry} {i : Integration H}
    (held : d.registry.get? entryId = some e) (registered : d.integrations[e.domain]? = some i)
    (opens : OpensBy steps π post heard d .config i.start
      ⟨Issue.id d.issued, e.domain, .reauth, i.version, none, some entryId⟩
      Source.reauth.key (some e.data)) :
    (startReauth steps entryId).run.Obeys π post heard d :=
  (entry_found held).mpr ((integration_found registered).mpr opens)

theorem obeys_startReauth {entryId : String} (fails : ∀ e, post heard (.ok (.error e)) d)
    (opens : ∀ e i, d.registry.get? entryId = some e → d.integrations[e.domain]? = some i →
      OpensBy steps π post heard d .config i.start
        ⟨Issue.id d.issued, e.domain, .reauth, i.version, none, some entryId⟩
        Source.reauth.key (some e.data)) :
    (startReauth steps entryId).run.Obeys π post heard d :=
  obeys_entry_bind fails fun e held => obeys_integration_bind (fun _ => fails) fun i found =>
    opens e i held found

theorem obeys_startOptions_at {entryId : String} {e : Entry} {i : Integration H} {memory : H}
    (held : d.registry.get? entryId = some e) (registered : d.integrations[e.domain]? = some i)
    (has : i.options e = some memory)
    (opens : OpensBy steps π post heard d .options memory
      ⟨Issue.id d.issued, entryId, .user, 1, none, some entryId⟩ "init" none) :
    (startOptions steps entryId).run.Obeys π post heard d := by
  refine (entry_found held).mpr ((integration_found registered).mpr ?_)
  rw [has]
  exact opens

theorem obeys_startOptions {entryId : String} (fails : ∀ e, post heard (.ok (.error e)) d)
    (opens : ∀ e i memory, d.registry.get? entryId = some e →
      d.integrations[e.domain]? = some i → i.options e = some memory →
      OpensBy steps π post heard d .options memory
        ⟨Issue.id d.issued, entryId, .user, 1, none, some entryId⟩ "init" none) :
    (startOptions steps entryId).run.Obeys π post heard d := by
  refine obeys_entry_bind fails fun e held =>
    obeys_integration_bind (fun _ => fails) fun i found => ?_
  cases has : i.options e with
  | none => exact fails _
  | some memory => exact opens e i memory held found has

/-- A start comes to what it comes to once its flow is listed, wherever the flow may begin. -/
def Opens (steps : Steps H F) (T : Terms (Desk H) (.desk F))
    (post : Post (Desk H) (.desk F) (Except FlowError FlowResult))
    (heard : List (Heard (Desk H) (.desk F))) (d : Desk H) : Prop :=
  ∀ kind memory c step data, Opening d kind memory c step data →
    T.writes heard d d.issue.2 ∧ T.writes heard d.issue.2 (d.issue.2.enroll kind memory c step) ∧
      (underWay steps c.flowId step data).run.Ensures T post heard
        (d.issue.2.enroll kind memory c step)

theorem Opens.by {kind : FlowKind} {memory : H} {c : Context} {step : String} {data : Option Data}
    (opens : Opens steps T post heard d) (opening : Opening d kind memory c step data) :
    OpensBy steps T.silent post heard d kind memory c step data := by
  obtain ⟨issues, enrolls, ensures⟩ := opens kind memory c step data opening
  exact ⟨issues, enrolls, ensures_iff_obeys.mp ensures⟩

theorem ensures_startConfig {handler : String} {source : Source} {data : Option Data}
    (fails : ∀ e, post heard (.ok (.error e)) d) (opens : Opens steps T post heard d) :
    (startConfig steps handler source data).run.Ensures T post heard d :=
  ensures_iff_obeys.mpr (obeys_startConfig (fun _ => fails) fun _ found => opens.by (.config found))

theorem ensures_startReauth {entryId : String} (fails : ∀ e, post heard (.ok (.error e)) d)
    (opens : Opens steps T post heard d) :
    (startReauth steps entryId).run.Ensures T post heard d :=
  ensures_iff_obeys.mpr (obeys_startReauth fails fun _ _ held found => opens.by (.reauth held found))

theorem ensures_startOptions {entryId : String} (fails : ∀ e, post heard (.ok (.error e)) d)
    (opens : Opens steps T post heard d) :
    (startOptions steps entryId).run.Ensures T post heard d :=
  ensures_iff_obeys.mpr (obeys_startOptions fails fun _ _ _ held found has =>
    opens.by (.options held found has))

end Action

end Onboarding.Desk
