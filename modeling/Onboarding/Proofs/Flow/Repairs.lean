import Onboarding.Proofs.Flow.Considerate

/-! Steps that give a registered entry new data. The entry is written and reloaded if its data is to
change, and nothing is done to it if it has that data already. -/
namespace Onboarding

namespace Entry

/-- The entry after its data was replaced. -/
def renewed (e : Entry) (data : Data) (now : Instant) : Entry := { e with data, modifiedAt := now }

theorem apply_data (e : Entry) (data : Data) (now : Instant) :
    e.apply { data := some data } now =
      if e.data.same data then (e, false) else (e.renewed data now, true) := by
  cases same : e.data.same data with
  | true => simp [apply, Update.changes, same]
  | false => simp [apply, Update.changes, Update.replaced, same, renewed]

end Entry

namespace Registry

/-- A registry with another version of one of its entries, which the file holds as well. -/
def rewritten (r : Registry) (e : Entry) : Registry := r.written (r.revise e)

theorem get?_rewritten (r : Registry) (e : Entry) : (r.rewritten e).get? e.id = some e := by
  simp [rewritten, written]

theorem get?_rewritten_of_ne (r : Registry) {e : Entry} {other : String} (apart : other ≠ e.id) :
    (r.rewritten e).get? other = r.get? other := by
  simp [rewritten, written, apart.symm]

theorem update_data {r : Registry} {e : Entry} (held : r.get? e.id = some e)
    (writable : r.disk.writable = true) (data : Data) (now : Instant) :
    r.update e.id { data := some data } now =
      if e.data.same data then (r, .ok false) else (r.rewritten (e.renewed data now), .ok true) := by
  have applied := e.apply_data data now
  split at applied
  · rename_i same
    rw [if_pos same, r.update_unchanged held applied]
  · rename_i differs
    rw [if_neg differs, r.update_changed held applied, Catalog.amend_same (by rfl),
      r.saved_written writable]
    rfl

end Registry

namespace Step

variable {H : Type} {F : Signature}

/-- What a reload is to a step. -/
def reloaded : Except RegistryError Unit → Except StepError Unit
  | .ok _ => .ok ()
  | .error (.setupFailed _) => .ok ()
  | .error e => .error (.registry e)

/-- The rest of a renewal after the update of its entry. -/
def afterUpdate (entryId : String) (memory : H) :
    Except RegistryError Bool → Prog (.step F) (Except StepError Unit × H)
  | .error e => .done (.error (.registry e), memory)
  | .ok false => .done (.ok (), memory)
  | .ok true => .ask (.reload entryId) fun r => .done (reloaded r, memory)

theorem renew_eq (entryId : String) (data : Data) (memory : H) :
    (renew entryId data : Step H F Unit) memory =
      .ask (.update entryId { data := some data }) (afterUpdate entryId memory) := by
  refine congrArg (Prog.ask _) (funext fun updated => ?_)
  match updated with
  | .error e => rfl
  | .ok false => rfl
  | .ok true =>
    refine congrArg (Prog.ask _) (funext fun r => ?_)
    match r with
    | .ok _ => rfl
    | .error (.setupFailed _) => rfl
    | .error (.notFound _) => rfl
    | .error (.alreadyExists _) => rfl
    | .error (.refused _) => rfl
    | .error (.storage _) => rfl

theorem endWithUpdate_eq (entryId : String) (data : Data) (reason : String) (memory : H) :
    (endWithUpdate entryId data reason : Step H F Outcome) memory =
      (renew entryId data memory : Prog (.step F) (Except StepError Unit × H)) >>= fun r =>
        .done (r.1.map fun _ => .abort reason, r.2) := by
  refine congrArg (Prog.bind _) (funext fun ⟨r, memory⟩ => ?_)
  cases r <;> rfl

/-- How a flow goes on whose unique id an entry holds, or none. -/
def afterLookUp (updates : Option Data) (memory : H) :
    Option Entry → Prog (.step F) (Except StepError Unit × H)
  | none => .done (.ok (), memory)
  | some e =>
    match updates with
    | none => .done (.error (.abort alreadyConfigured), memory)
    | some updates =>
      (renew e.id (e.data.overlay updates) memory : Prog (.step F) (Except StepError Unit × H)) >>=
        fun r => .done (r.1.bind fun _ => .error (.abort alreadyConfigured), r.2)

theorem endIfConfigured_eq (updates : Option Data) (memory : H) :
    (endIfConfigured updates : Step H F Unit) memory = .ask .context fun c =>
      match c.uniqueId with
      | none => .done (.ok (), memory)
      | some uniqueId => .ask .registry fun r =>
        afterLookUp updates memory (r.holder? ⟨c.handler, uniqueId⟩) := by
  have ends (held : Option Entry) :
      (match held with
        | none => pure ()
        | some e => do
          match updates with
          | none => pure ()
          | some updates => renew e.id (e.data.overlay updates)
          throw (.abort alreadyConfigured) : Step H F Unit) memory =
        afterLookUp updates memory held := by
    cases held with
    | none => rfl
    | some e =>
      cases updates with
      | none => rfl
      | some updates =>
        refine congrArg (Prog.bind _) (funext fun ⟨r, memory⟩ => ?_)
        cases r <;> rfl
  refine congrArg (Prog.ask _) (funext fun c => ?_)
  obtain ⟨flowId, handler, source, version, uniqueId, entryId⟩ := c
  cases uniqueId with
  | none => rfl
  | some uniqueId => exact congrArg (Prog.ask _) (funext fun r => ends (r.holder? ⟨handler, uniqueId⟩))

end Step

namespace Desk

open Job

variable {H : Type} {F : Signature} {T : Terms (Desk H) (.desk F)} {own : String → Prop}
  {d : Desk H} {heard : List (Heard (Desk H) (.desk F))} {id : String} {e : Entry} {data : Data}
  {memory : H}

/-- What becomes of an entry that is given data: it is as it was if the data is the same; else it is
written with that data and unloaded, and set up again unless it is disabled. -/
inductive Renews (own : String → Prop) (e : Entry) (data : Data) (d : Desk H)
    (heard : List (Heard (Desk H) (.desk F))) : List (Heard (Desk H) (.desk F)) → Desk H → Prop where
  | same (same : e.data.same data = true) : Renews own e data d heard heard d
  | disabled {later : List (Heard (Desk H) (.desk F))} {t : Desk H}
    {waits : List (Heard Registry .hosting)} {s : Registry}
    (differs : e.data.same data = false) (disabled : e.isDisabled = true)
    (turn : Registry.Turn own (d.registry.rewritten (e.renewed data d.now)) waits s)
    (hears : later.filterMap hosted = heard.filterMap hosted ++ waits)
    (leaves : t.registry = s.place (e.renewed data d.now).persisted) :
    Renews own e data d heard later t
  | tried {later : List (Heard (Desk H) (.desk F))} {t : Desk H}
    {waits asked : List (Heard Registry .hosting)} {s : Registry}
    {result : Except RegistryError Unit}
    (differs : e.data.same data = false) (enabled : e.isDisabled = false)
    (turn : Registry.Turn own (d.registry.rewritten (e.renewed data d.now)) waits s)
    (hears : later.filterMap hosted = heard.filterMap hosted ++ waits ++ asked)
    (attempts : Registry.Attempting (e.renewed data d.now).persisted s asked result t.registry) :
    Renews own e data d heard later t

/-- A settled entry that was given other data is reloaded, and the step goes on. -/
theorem renews_of_reloads {later : List (Heard (Desk H) (.desk F))} {t : Desk H}
    {ended : Except Crash (Except RegistryError Unit)} (settled : e.phase.settled = true)
    (mine : own e.id) (differs : e.data.same data = false)
    (reloads : Registry.comesTo own (heard.filterMap hosted)
      (d.registry.rewritten (e.renewed data d.now)) (Registry.Reloading e.id) (later.filterMap hosted)
      ended t.registry) :
    (∃ result, ended = .ok result ∧ Step.reloaded result = .ok ()) ∧
      Renews own e data d heard later t := by
  obtain ⟨waits, s, asked, result, turn, hears, rfl, reloads⟩ := reloads
  have there : s.get? e.id = some (e.renewed data d.now) :=
    (turn.get? mine).trans (d.registry.get?_rewritten (e.renewed data d.now))
  generalize leaves : t.registry = u at reloads
  cases reloads with
  | missing absent => simp [there] at absent
  | refused held transient =>
    cases there.symm.trans held
    exact absurd (settled.symm.trans transient) (by decide)
  | disabled held _ disabled =>
    cases there.symm.trans held
    refine ⟨⟨_, rfl, rfl⟩, .disabled differs disabled turn ?_ leaves⟩
    simpa using hears
  | tries held _ enabled attempts =>
    cases there.symm.trans held
    refine ⟨⟨_, rfl, ?_⟩, .tried differs enabled turn hears (leaves ▸ attempts)⟩
    cases attempts <;> rfl

/-- A registered entry that may be given data: it is settled, and the file can be written. -/
structure Renewable (own : String → Prop) (d : Desk H) (e : Entry) : Prop where
  filed : d.registry.Filed
  held : d.registry.get? e.id = some e
  settled : e.phase.settled = true
  writable : d.registry.disk.writable = true
  mine : own e.id

theorem ensures_renew (considerate : Considerate own T) (renewable : Renewable own d e)
    (data : Data) (memory : H) :
    Ensures T (fun later ended t => ended = .ok (.ok (), memory) ∧ Renews own e data d heard later t)
      (Prog.interpret (S := .step F) (Work.answer id) ((Step.renew e.id data : Step H F Unit) memory))
      heard d := by
  obtain ⟨filed, held, settled, writable, mine⟩ := renewable
  rw [Step.renew_eq]
  refine ⟨considerate.writes heard d _, ?_⟩
  have updated := mutate_of (f := (·.update e.id { data := some data } d.now))
    (Registry.update_data held writable data d.now)
  change Ensures T _ (Prog.interpret (S := .step F) (Work.answer id) (Step.afterUpdate e.id memory
    (d.mutate (·.update e.id { data := some data } d.now)).1)) heard
    (d.mutate (·.update e.id { data := some data } d.now)).2
  cases same : e.data.same data with
  | true =>
    rw [updated, same]
    exact ⟨rfl, .same same⟩
  | false =>
    rw [updated, same]
    have kept : (d.registry.rewritten (e.renewed data d.now)).Filed := filed.revise _
    refine ensures_bind.mpr (ensures_imp ?_ (considerate.ensures_errand kept (.reload e.id)))
    intro later ended t reloads
    obtain ⟨⟨result, rfl, goesOn⟩, renews⟩ := renews_of_reloads settled mine same reloads
    exact ⟨by rw [goesOn], renews⟩

/-- A step that goes on to end after a renewal, however that went. -/
theorem ensures_renew_bind {α : Type} (considerate : Considerate own T)
    (renewable : Renewable own d e) (data : Data) (memory : H)
    (f : Except StepError Unit → Except StepError α) :
    Ensures T (fun later ended t => ended = .ok (f (.ok ()), memory) ∧
        Renews own e data d heard later t)
      (Prog.interpret (S := .step F) (Work.answer id)
        ((Step.renew e.id data memory : Prog (.step F) (Except StepError Unit × H)) >>= fun r =>
          .done (f r.1, r.2))) heard d := by
  rw [Prog.interpret_bind]
  refine ensures_bind.mpr (ensures_imp ?_ (ensures_renew considerate renewable data memory))
  rintro later ended t ⟨rfl, renews⟩
  exact ⟨rfl, renews⟩

/-- The entry that is registered under the unique id of a flow. -/
def configured (d : Desk H) (id : String) : Option Entry :=
  (d.contextOf id).uniqueId.bind fun uniqueId =>
    d.registry.holder? ⟨(d.contextOf id).handler, uniqueId⟩

theorem ensures_endIfConfigured {post : Post (Desk H) (.desk F) (Except StepError Unit × H)}
    (updates : Option Data) (memory : H)
    (ends : Ensures T post (Prog.interpret (S := .step F) (Work.answer id)
      (Step.afterLookUp updates memory (d.configured id))) heard d) :
    Ensures T post (Prog.interpret (S := .step F) (Work.answer id)
      ((Step.endIfConfigured updates : Step H F Unit) memory)) heard d := by
  rw [Step.endIfConfigured_eq]
  unfold configured at ends
  change Ensures T post (Prog.interpret (S := .step F) (Work.answer id)
    (match (d.contextOf id).uniqueId with
      | none => .done (.ok (), memory)
      | some uniqueId => .ask .registry fun r =>
        Step.afterLookUp updates memory (r.holder? ⟨(d.contextOf id).handler, uniqueId⟩))) heard d
  cases claimed : (d.contextOf id).uniqueId with
  | none =>
    rw [claimed] at ends
    exact ends
  | some uniqueId =>
    rw [claimed] at ends
    exact ends

/-- An entry is registered that has the unique id of the flow. -/
def Configures (d : Desk H) (id : String) (e : Entry) : Prop :=
  d.registry.get? e.id = some e ∧ (d.contextOf id).Names e

theorem configured_iff (indexed : d.registry.Indexed) (found : d.registry.Found) :
    d.configured id = some e ↔ d.Configures id e := by
  simp only [configured, Configures, Context.Names, Option.bind_eq_some_iff,
    Catalog.holder?_iff indexed found]
  tauto

/-- What is registered after an entry was given data: the entry has the data, and is otherwise as it
was but for the time of the change and its lifecycle; other entries that are left to the call are as
they were. -/
structure Renewed (own : String → Prop) (e : Entry) (data : Data) (d t : Desk H) : Prop where
  entry : ∃ f, t.registry.get? e.id = some f ∧ f.data.same data = true ∧
    f = { e with data := f.data, modifiedAt := f.modifiedAt, phase := f.phase, reason := f.reason }
  others : ∀ other, other ≠ e.id → own other → t.registry.get? other = d.registry.get? other

theorem Renews.renewed {later : List (Heard (Desk H) (.desk F))} {t : Desk H}
    (renews : Renews own e data d heard later t) (held : d.registry.get? e.id = some e) :
    Renewed own e data d t := by
  have turned {waits : List (Heard Registry .hosting)} {s : Registry} {f : Entry}
      (turn : Registry.Turn own (d.registry.rewritten (e.renewed data d.now)) waits s)
      (leaves : t.registry = s.place f)
      (same : f = { e.renewed data d.now with phase := f.phase, reason := f.reason }) :
      Renewed own e data d t := by
    have named : f.id = e.id := by rw [same]; rfl
    refine ⟨⟨f, ?_, ?_, ?_⟩, fun other apart kept => ?_⟩
    · rw [leaves, ← named]
      exact s.get?_place f
    · rw [same]
      exact data.same_refl
    · rw [same]
      rfl
    · rw [leaves, s.get?_place_of_ne (named ▸ apart), turn.get? kept]
      exact d.registry.get?_rewritten_of_ne apart
  cases renews with
  | same same => exact ⟨⟨e, held, same, rfl⟩, fun _ _ _ => rfl⟩
  | disabled _ _ turn _ leaves => exact turned turn leaves rfl
  | tried _ _ turn _ attempts =>
    generalize leaves : t.registry = u at attempts
    cases attempts <;> exact turned turn leaves rfl

/-- A step that gives an entry data and ends its flow does so whether or not the setup then fails, and
the entry is renewed if the data is to change. A step that ends its flow if an entry is registered
under the unique id of the flow does nothing if there is none; else it ends it, and renews that
entry by the values that it is given over those that the entry has. -/
theorem renewal_transaction (considerate : Considerate own T) (indexed : d.registry.Indexed)
    (found : d.registry.Found) (writable : d.registry.disk.writable = true) (id : String)
    (memory : H) (heard : List (Heard (Desk H) (.desk F))) :
    (∀ e, d.registry.get? e.id = some e → e.phase.settled = true → own e.id →
      ∀ data reason, Ensures T
        (fun later ended t => ended = .ok (.ok (.abort reason), memory) ∧
          Renews own e data d heard later t ∧ Renewed own e data d t)
        (Prog.interpret (S := .step F) (Work.answer id)
          ((Step.endWithUpdate e.id data reason : Step H F Outcome) memory)) heard d) ∧
    (∀ updates, (∀ e, ¬ d.Configures id e) → Ensures T
        (fun later ended t => ended = .ok (.ok (), memory) ∧ later = heard ∧ t = d)
        (Prog.interpret (S := .step F) (Work.answer id)
          ((Step.endIfConfigured updates : Step H F Unit) memory)) heard d) ∧
    ∀ e, d.Configures id e →
      Ensures T (fun later ended t =>
          ended = .ok (.error (.abort alreadyConfigured), memory) ∧ later = heard ∧ t = d)
        (Prog.interpret (S := .step F) (Work.answer id)
          ((Step.endIfConfigured none : Step H F Unit) memory)) heard d ∧
      (e.phase.settled = true → own e.id → ∀ updates,
        (∀ name : String, (e.data.overlay updates)[name]? = updates[name]?.or e.data[name]?) ∧
        Ensures T (fun later ended t =>
            ended = .ok (.error (.abort alreadyConfigured), memory) ∧
            Renews own e (e.data.overlay updates) d heard later t ∧
            Renewed own e (e.data.overlay updates) d t)
          (Prog.interpret (S := .step F) (Work.answer id)
            ((Step.endIfConfigured (some updates) : Step H F Unit) memory)) heard d) := by
  have renewable {e : Entry} (held : d.registry.get? e.id = some e)
      (settled : e.phase.settled = true) (mine : own e.id) : Renewable own d e :=
    ⟨indexed.filed, held, settled, writable, mine⟩
  refine ⟨fun e held settled mine data reason => ?_, fun updates none => ?_,
    fun e configures => ⟨?_, fun settled mine updates => ⟨Data.getElem?_overlay _ _, ?_⟩⟩⟩
  · rw [Step.endWithUpdate_eq]
    refine ensures_imp ?_ (ensures_renew_bind considerate (renewable held settled mine) data memory
      fun r => r.map fun _ => Outcome.abort reason)
    rintro later ended t ⟨ends, renews⟩
    exact ⟨ends, renews, renews.renewed held⟩
  · refine ensures_endIfConfigured updates memory ?_
    have unknown : d.configured id = Option.none := Option.eq_none_iff_forall_ne_some.mpr
      fun e found' => none e ((configured_iff indexed found).mp found')
    rw [unknown]
    exact ⟨rfl, rfl, rfl⟩
  · refine ensures_endIfConfigured Option.none memory ?_
    rw [(configured_iff indexed found).mpr configures]
    exact ⟨rfl, rfl, rfl⟩
  · refine ensures_endIfConfigured (some updates) memory ?_
    rw [(configured_iff indexed found).mpr configures]
    refine ensures_imp ?_ (ensures_renew_bind considerate (renewable configures.1 settled mine)
      (e.data.overlay updates) memory fun r => r.bind fun _ => .error (.abort alreadyConfigured))
    rintro later ended t ⟨ends, renews⟩
    exact ⟨ends, renews, renews.renewed configures.1⟩

/-- A flow that repairs the first lamp has claimed its unique id. -/
def lampRepair : Desk Unit :=
  ({ registry := Registry.handledLamp.state, now := .epoch } : Desk Unit).enroll .config ()
    ⟨"f", "light", .reauth, 1, some "x", some "a"⟩ "reauth"

def hostData : Data := Std.ExtTreeMap.insert ∅ "host" (.text "h")

/-- The lamp is given a host, and the flow ends. -/
theorem lamp_renewed :
    lampRepair.Configures "f" Registry.lampA ∧
    Ensures (calm .hosting fun _ => True) (fun later ended t =>
        ended = .ok (.error (.abort alreadyConfigured), ()) ∧
        Renews (fun _ => True) Registry.lampA (Registry.lampA.data.overlay hostData) lampRepair []
          later t ∧
        Renewed (fun _ => True) Registry.lampA (Registry.lampA.data.overlay hostData) lampRepair t)
      (Prog.interpret (S := .step .hosting) (Work.answer "f")
        ((Step.endIfConfigured (some hostData) : Step Unit .hosting Unit) ())) [] lampRepair := by
  have registered : lampRepair.registry.toCatalog = Catalog.restore {} Registry.lampA := rfl
  have indexed : lampRepair.registry.Indexed :=
    registered ▸ Catalog.indexed_empty.restore (by simp [Catalog.get?])
  have found : lampRepair.registry.Found :=
    registered ▸ Catalog.found_empty.restore fun id f i held => by simp [Catalog.get?] at held
  have configures : lampRepair.Configures "f" Registry.lampA := by
    refine ⟨?_, "x", ?_, ?_⟩
    · rw [registered]
      simp
    · simp [contextOf, lampRepair, enroll]
    · simp [contextOf, lampRepair, enroll, Registry.lampA, Entry.identity?, Entry.new]
  obtain ⟨_, _, ends⟩ := renewal_transaction (considerate_calm .hosting fun _ => True) indexed found
    rfl "f" () []
  exact ⟨configures, ((ends _ configures).2 rfl trivial hostData).2⟩

end Desk

end Onboarding
