import Onboarding.Proofs.Flow.Considerate
import Onboarding.Proofs.Flow.Record
import Onboarding.Proofs.Registry.Addition

/-! Config flows that end in an entry. The flow is ended first; then its entry is added and set up,
unless an entry with its unique id is registered already. -/
namespace Onboarding

namespace Registry

variable {r t : Registry} {e : Entry} {own : String → Prop}

/-- A registry with a further entry, which the file holds as well. -/
def extended (r : Registry) (e : Entry) : Registry := r.written (r.restore e)

theorem get?_extended (r : Registry) (e : Entry) (id : String) :
    (r.extended e).get? id = if e.id = id then some e else r.get? id :=
  Catalog.get?_restore r.toCatalog e id

/-- One entry was added, is loaded or failed in its setup, and the others that are left to the call
are as they were. -/
structure Added (own : String → Prop) (e : Entry) (r t : Registry) : Prop where
  fresh : r.get? e.id = none
  entry : t.get? e.id = some e.loaded ∨ ∃ reason, t.get? e.id = some (e.failed reason)
  others : ∀ id, id ≠ e.id → own id → t.get? id = r.get? id

theorem Added.of_attempts {waits asked : List (Heard Registry .hosting)} {s : Registry}
    {result : Except RegistryError Unit} (fresh : r.get? e.id = none)
    (turn : Turn own (r.extended e) waits s) (attempts : Attempting e s asked result t) :
    Added own e r t := by
  have others {f : Entry} (named : f.id = e.id) (id : String) (apart : id ≠ e.id) (kept : own id) :
      (s.place f).get? id = r.get? id := by
    rw [s.get?_place_of_ne (named ▸ apart), turn.get? kept, get?_extended, if_neg apart.symm]
  cases attempts with
  | alone => exact ⟨fresh, .inl (s.get?_place e.loaded), others (f := e.loaded) rfl⟩
  | ready => exact ⟨fresh, .inl (s.get?_place e.loaded), others (f := e.loaded) rfl⟩
  | failed _ reason =>
    exact ⟨fresh, .inr ⟨reason, s.get?_place (e.failed reason)⟩, others (f := e.failed reason) rfl⟩

end Registry

namespace Desk

open Job

variable {H : Type} {F : Signature} {T : Terms (Desk H) (.desk F)} {own : String → Prop}
  {d : Desk H} {heard : List (Heard (Desk H) (.desk F))} {id : String} {c : Context}
  {title : String} {data options : Data} {steps : Steps H F}

/-- The flow has been started, and is not in progress any more. -/
structure Dropped (d : Desk H) (id : String) : Prop where
  flow : ∃ f, d.flows[id]? = some f
  unlisted : id ∉ d.listed
  rowless : d.progress[id]? = none

theorem Dropped.placed (gone : d.Dropped id) (r : Registry) : Dropped { d with registry := r } id :=
  ⟨gone.flow, gone.unlisted, gone.rowless⟩

theorem Dropped.modifyFlow (gone : d.Dropped id) (g : Flow H → Flow H) :
    (d.modifyFlow id g).Dropped id := by
  obtain ⟨⟨f, here⟩, unlisted, rowless⟩ := gone
  exact ⟨⟨g f, by rw [flow_modifyFlow_self, here]; rfl⟩, unlisted, rowless⟩

theorem dropped_delist (known : ∃ f, d.flows[id]? = some f) : (d.delist id).Dropped id :=
  ⟨known, by simp [delist, Std.ExtTreeSet.mem_erase], by simp [delist]⟩

theorem dropped_close (known : ∃ f, d.flows[id]? = some f) : (d.close id).Dropped id := by
  obtain ⟨f, here⟩ := known
  exact dropped_delist ⟨{ f with finished := true }, by rw [flow_modifyFlow_self, here]; rfl⟩

/-- The entry that a flow makes. -/
def made (d : Desk H) (c : Context) (title : String) (data options : Data) : Entry where
  id := Issue.id d.issued
  domain := c.handler
  title := title
  data := data
  options := options
  version := c.version
  minorVersion := 1
  uniqueId := c.uniqueId
  source := c.source
  phase := .notLoaded
  reason := none
  disabledBy := none
  createdAt := d.now
  modifiedAt := d.now

/-- The look-ups of the registry are right, the id of the next entry is new, and it is left to the
flow that draws it. -/
structure Coherent (own : String → Prop) (d : Desk H) : Prop where
  indexed : d.registry.Indexed
  found : d.registry.Found
  fresh : d.registry.get? (Issue.id d.issued) = none
  mine : own (Issue.id d.issued)

/-- What a flow with a given context comes to that asks for an entry: by what integrations are asked
meanwhile, by the answer, and by the registry in the end. -/
inductive Commits (own : String → Prop) (c : Context) (e : Entry) (r : Registry) :
    List (Heard Registry .hosting) → Except FlowError FlowResult.Body → Registry → Prop where
  | known {f : Entry} (held : r.get? f.id = some f) (names : c.Names f) :
    Commits own c e r [] (.ok (.aborted alreadyConfigured)) r
  | unsaved (unknown : ∀ f, r.get? f.id = some f → ¬ c.Names f)
    (broken : r.disk.writable = false) :
    Commits own c e r [] (.error (.registry (.storage .io))) { r with toCatalog := r.restore e }
  | added {waits asked : List (Heard Registry .hosting)} {s t : Registry}
    {result : Except RegistryError Unit} (unknown : ∀ f, r.get? f.id = some f → ¬ c.Names f)
    (writable : r.disk.writable = true) (turn : Registry.Turn own (r.extended e) waits s)
    (attempts : Registry.Attempting e s asked result t) (added : Registry.Added own e r t) :
    Commits own c e r (waits ++ asked)
      (.ok (.created e.title e.data e.options e.version (some e.id))) t

theorem identity?_made (d : Desk H) (c : Context) (title : String) (data options : Data) :
    (d.made c title data options).identity? = c.uniqueId.map (⟨c.handler, ·⟩) := rfl

/-- The unique id of a flow is taken in the registry exactly if an entry has it. -/
theorem Coherent.taken_iff (coherent : d.Coherent own) :
    (∃ i, (d.made c title data options).identity? = some i ∧ i ∈ d.registry.byUniqueId) ↔
      ∃ e, d.registry.get? e.id = some e ∧ c.Names e := by
  simp only [identity?_made, Option.map_eq_some_iff, Std.ExtTreeMap.mem_iff_isSome_getElem?,
    Option.isSome_iff_exists]
  constructor
  · rintro ⟨i, ⟨uniqueId, claimed, rfl⟩, holder, row⟩
    obtain ⟨e, held, has⟩ := coherent.indexed.sound _ holder row
    obtain rfl := coherent.indexed.filed holder e held
    exact ⟨e, held, uniqueId, claimed, has⟩
  · rintro ⟨e, held, uniqueId, claimed, has⟩
    exact ⟨_, ⟨uniqueId, claimed, rfl⟩, e.id, coherent.found e.id e _ held has⟩

/-- The setup of an entry that was just made is tried. -/
theorem attempts_of_setsUp {asked : List (Heard Registry .hosting)} {s t : Registry}
    {result : Except RegistryError Unit}
    (there : s.get? (d.made c title data options).id = some (d.made c title data options))
    (sets : Registry.SettingUp (d.made c title data options).id s asked result t) :
    Registry.Attempting (d.made c title data options) s asked result t := by
  cases sets with
  | missing absent => simp [there] at absent
  | disabled held disabled =>
    cases there.symm.trans held
    exact absurd disabled Bool.false_ne_true
  | refused held _ unfit =>
    cases there.symm.trans held
    exact absurd rfl unfit.1
  | tries held _ _ attempts =>
    cases there.symm.trans held
    exact attempts

/-- What is to hold once a flow that asked for an entry on the desk `s` has been answered. -/
def committed (own : String → Prop) (id : String) (c : Context) (title : String)
    (data options : Data) (s : Desk H) (heard : List (Heard (Desk H) (.desk F))) :
    Post (Desk H) (.desk F) (Except FlowError FlowResult.Body) :=
  fun later ended t => ∃ hears answer, later.filterMap hosted = heard.filterMap hosted ++ hears ∧
    ended = .ok answer ∧
    Commits own c (s.made c title data options) s.registry hears answer t.registry ∧ t.Dropped id

theorem ensures_registerEntry_committed (considerate : Considerate own T)
    (stays : ∀ q reply d t, T.finds q reply d t → d.Dropped id → t.Dropped id)
    (coherent : d.Coherent own) (gone : d.Dropped id) :
    (Action.registerEntry c title data options : Action H F FlowResult.Body).run.Ensures T
      (committed own id c title data options d heard) heard d := by
  let e := d.made c title data options
  have nothing : heard.filterMap hosted = heard.filterMap hosted ++ [] := (List.append_nil _).symm
  by_cases taken : ∃ i, e.identity? = some i ∧ i ∈ d.registry.byUniqueId
  · obtain ⟨i, has, taken⟩ := taken
    obtain ⟨f, held, names⟩ := coherent.taken_iff.mp ⟨i, has, taken⟩
    refine Action.ensures_registerEntry (mutate_of (d.registry.add_taken has taken))
      (considerate.writes ..) (considerate.writes ..) ?_ ?_ ?_
    · exact fun _ _ => ⟨[], _, nothing, rfl, .known held names, gone.flow, gone.unlisted,
        gone.rowless⟩
    · rintro _ ⟨⟩ other
      exact absurd rfl (other i)
    · rintro _ ⟨⟩
  have unknown (f : Entry) (held : d.registry.get? f.id = some f) : ¬ c.Names f := fun names =>
    taken (coherent.taken_iff.mpr ⟨f, held, names⟩)
  have free (i : Identity) (has : e.identity? = some i) : i ∉ d.registry.byUniqueId := fun member =>
    taken ⟨i, has, member⟩
  cases writable : d.registry.disk.writable with
  | false =>
    have adds := (d.registry.add_free free).trans
      (Registry.saved_broken { d.registry with toCatalog := d.registry.restore e } writable e)
    refine Action.ensures_registerEntry (mutate_of adds) (considerate.writes ..)
      (considerate.writes ..) ?_ ?_ ?_
    · rintro _ ⟨⟩
    · rintro _ ⟨⟩ _
      exact ⟨[], _, nothing, rfl, .unsaved unknown writable, gone.flow, gone.unlisted, gone.rowless⟩
    · rintro _ ⟨⟩
  | true =>
    have adds := (d.registry.add_free free).trans (d.registry.saved_written writable _ e)
    refine Action.ensures_registerEntry (mutate_of adds) (considerate.writes ..)
      (considerate.writes ..) ?_ ?_ ?_
    · rintro _ ⟨⟩
    · rintro _ ⟨⟩
    rintro _ ⟨⟩
    have filed : (d.registry.extended e).Filed := coherent.indexed.filed.restore e
    refine ensures_imp ?_ (considerate.ensures_errand_keeping
      (d := { d.issue.2 with registry := d.registry.extended e }) filed (.setUp e.id)
      (fun _ r gone => Dropped.placed gone r) stays ⟨gone.flow, gone.unlisted, gone.rowless⟩)
    rintro later ended t ⟨⟨waits, s, asked, result, turn, hears, rfl, sets⟩, gone⟩
    have there : s.get? e.id = some e :=
      (turn.get? coherent.mine).trans ((d.registry.get?_extended e e.id).trans (if_pos rfl))
    have attempts := attempts_of_setsUp there sets
    refine ⟨waits ++ asked, _, ?_, rfl, .added unknown writable turn attempts
      (.of_attempts coherent.fresh turn attempts), gone⟩
    rw [hears, List.append_assoc]

/-- A step of a flow asks for an entry, on a desk where it can be made. -/
def AsksFor (own : String → Prop) (T : Terms (Desk H) (.desk F)) (steps : Steps H F)
    (asked : List (Heard (Desk H) (.desk F)) → Desk H → String → Data → Data → Prop)
    (id step : String) (input : Option Data) (memory : H) (heard : List (Heard (Desk H) (.desk F)))
    (d : Desk H) : Prop :=
  Ensures T (fun later ended s => ∃ title data options memory,
      ended = .ok (.ok (.create title data options), memory) ∧ s.Coherent own ∧
      (∃ f, s.flows[id]? = some f) ∧ asked later s title data options)
    (Prog.interpret (S := .step F) (Work.answer id) (steps step input memory)) heard d

/-- The flow has been answered by what comes of the entry that it asked for. -/
def entered (own : String → Prop)
    (asked : List (Heard (Desk H) (.desk F)) → Desk H → String → Data → Data → Prop) (id : String) :
    Post (Desk H) (.desk F) (Except FlowError FlowResult) :=
  fun later ended t => ∃ heard s title data options answer, asked heard s title data options ∧
    committed own id (s.contextOf id) title data options s heard later (.ok answer) t ∧
    ended = .ok (answer.map (Action.result (s.contextOf id)))

variable {asked : List (Heard (Desk H) (.desk F)) → Desk H → String → Data → Data → Prop}

theorem ensures_takeStep_entered (considerate : Considerate own T)
    (stays : ∀ q reply d t, T.finds q reply d t → d.Dropped id → t.Dropped id) {flow : Flow H}
    (here : d.flows[id]? = some flow) (config : flow.kind = .config) {step : String}
    {input : Option Data} (asks : AsksFor own T steps asked id step input flow.memory heard d) :
    (Action.takeStep steps id step input).run.Ensures T (entered own asked id) heard d := by
  rw [Action.ensures_takeStep_iff here]
  refine ensures_imp ?_ asks
  rintro later ended s ⟨title, data, options, memory, rfl, coherent, ⟨f, there⟩, asked⟩
  change (Action.settle id flow.kind (.ok (.create title data options), memory)).run.Ensures T _
    later s
  rw [config]
  refine Action.ensures_settle_create (considerate.writes ..) (considerate.writes ..) ?_
  have gone : ((s.modifyFlow id ({ · with memory })).close id).Dropped id :=
    dropped_close ⟨{ f with memory }, by rw [flow_modifyFlow_self, there]; rfl⟩
  refine ensures_imp ?_ (ensures_registerEntry_committed (c := s.contextOf id) considerate stays
    ⟨coherent.indexed, coherent.found, coherent.fresh, coherent.mine⟩ gone)
  rintro last ended t ⟨hears, answer, grown, rfl, commits, gone⟩
  exact ⟨later, s, title, data, options, answer, asked,
    ⟨hears, answer, grown, rfl, commits, gone⟩, rfl⟩

theorem entered_closes (considerate : Considerate own T) :
    Action.Closes T (entered own asked id) id where
  frees {heard ended t} ends := by
    refine ⟨considerate.writes .., ?_⟩
    obtain ⟨before, s, title, data, options, answer, asked, committed, rfl⟩ := ends
    obtain ⟨hears, answer, grown, ⟨⟩, commits, gone⟩ := committed
    exact ⟨before, s, title, data, options, answer, asked,
      ⟨hears, answer, grown, rfl, commits, gone.modifyFlow _⟩, rfl⟩
  delists {heard e t} ends := by
    refine ⟨considerate.writes .., ?_⟩
    obtain ⟨before, s, title, data, options, answer, asked, committed, same⟩ := ends
    obtain ⟨hears, answer, grown, ⟨⟩, commits, gone⟩ := committed
    exact ⟨before, s, title, data, options, answer, asked,
      ⟨hears, answer, grown, rfl, commits, dropped_delist gone.flow⟩, same⟩

/-- A start whose first step asks for an entry, from where its flow is listed. -/
theorem opensBy_entered (considerate : Considerate own T)
    (stays : ∀ q reply d t, T.finds q reply d t → d.Dropped c.flowId → t.Dropped c.flowId)
    {memory : H} {step : String} {input : Option Data}
    (asks : AsksFor own T steps asked c.flowId step input memory heard
      (d.issue.2.enroll .config memory c step)) :
    Action.OpensBy steps T.silent (entered own asked c.flowId) heard d .config memory c step
      input := by
  refine ⟨considerate.writes .., considerate.writes .., ensures_iff_obeys.mp ?_⟩
  refine Action.ensures_underWay (entered_closes considerate) ?_
  exact ensures_takeStep_entered considerate stays
    ((flow_enroll _ .config memory c step c.flowId).trans (if_pos rfl)) rfl asks

/-- Where a submit has its turn: at once, or as it finds the desk after a wait. -/
inductive HasTurn (T : Terms (Desk H) (.desk F)) (d : Desk H) (id : String) :
    List (Heard (Desk H) (.desk F)) → Desk H → Prop where
  | atOnce (free : d.flows[id]?.any Flow.busy = false) : HasTurn T d id [] d
  | waited (busy : d.flows[id]?.any Flow.busy = true) {t : Desk H}
    (found : T.finds (.awaitFlow id) () d t) : HasTurn T d id [⟨.awaitFlow id, (), t⟩] t

theorem ensures_submit_entered (considerate : Considerate own T)
    (stays : ∀ q reply d t, T.finds q reply d t → d.Dropped id → t.Dropped id) {input : Data}
    (listed : id ∈ d.listed)
    (asks : ∀ heard t, HasTurn T d id heard t → ∃ flow clean,
      Action.Answerable t id input flow clean ∧ flow.kind = .config ∧
      AsksFor own T steps asked id flow.step (some clean) flow.memory heard
        (t.modifyFlow id ({ · with busy := true }))) :
    (Action.submit steps id input).run.Ensures T (entered own asked id) [] d := by
  refine Action.ensures_submit (entered_closes considerate) listed fun heard t reached =>
    ⟨considerate.writes .., ?_⟩
  have turn : HasTurn T d id heard t := by
    rcases reached with ⟨free, rfl, rfl⟩ | ⟨busy, found, rfl⟩
    · exact .atOnce free
    · exact .waited busy found
  obtain ⟨flow, clean, ⟨here, unfinished, validated⟩, config, asks⟩ := asks heard t turn
  have there : (t.modifyFlow id ({ · with busy := true })).flows[id]? =
      some { flow with busy := true } := by
    rw [flow_modifyFlow_self, here]
    rfl
  refine ensures_iff_obeys.mpr (Action.obeys_answering_at there (fun finished => ?_)
    (fun r rejected => ?_) fun clean' answerable => ?_)
  · exact absurd (unfinished.symm.trans finished) Bool.false_ne_true
  · cases validated.symm.trans rejected
  · cases validated.symm.trans answerable.2.2
    exact ensures_iff_obeys.mp (ensures_takeStep_entered considerate stays there config asks)

/-- However a config flow comes to ask for an entry, in the first step of a start or in the step
that an input is answered by, the call is answered by what comes of the entry, and its flow is over.
-/
theorem config_flow_commits (considerate : Considerate own T)
    (stays : ∀ q reply d t, T.finds q reply d t → ∀ id, d.Dropped id → t.Dropped id)
    (steps : Steps H F)
    (asked : List (Heard (Desk H) (.desk F)) → Desk H → String → Data → Data → Prop) (d : Desk H) :
    (∀ handler source data i, d.integrations[handler]? = some i →
      AsksFor own T steps asked (Issue.id d.issued) source.key data i.start []
        (d.issue.2.enroll .config i.start
          ⟨Issue.id d.issued, handler, source, i.version, none, none⟩ source.key) →
      (Action.startConfig steps handler source data).run.Ensures T
        (entered own asked (Issue.id d.issued)) [] d) ∧
    (∀ entryId e i, d.registry.get? entryId = some e → d.integrations[e.domain]? = some i →
      AsksFor own T steps asked (Issue.id d.issued) Source.reauth.key (some e.data) i.start []
        (d.issue.2.enroll .config i.start
          ⟨Issue.id d.issued, e.domain, .reauth, i.version, none, some entryId⟩
          Source.reauth.key) →
      (Action.startReauth steps entryId).run.Ensures T
        (entered own asked (Issue.id d.issued)) [] d) ∧
    ∀ id input, id ∈ d.listed →
      (∀ heard t, HasTurn T d id heard t → ∃ flow clean,
        Action.Answerable t id input flow clean ∧ flow.kind = .config ∧
        AsksFor own T steps asked id flow.step (some clean) flow.memory heard
          (t.modifyFlow id ({ · with busy := true }))) →
      (Action.submit steps id input).run.Ensures T (entered own asked id) [] d := by
  have keeps (id : String) (q reply) (d t : Desk H) (found : T.finds q reply d t)
      (gone : d.Dropped id) : t.Dropped id := stays q reply d t found id gone
  refine ⟨fun handler source data i registered asks => ?_,
    fun entryId e i held registered asks => ?_, fun id input listed asks => ?_⟩
  · refine ensures_iff_obeys.mpr (Action.obeys_startConfig ?_ fun j found => ?_)
    · exact fun absent => absurd (registered.symm.trans absent) (by rintro ⟨⟩)
    · cases registered.symm.trans found
      exact opensBy_entered considerate (keeps (Issue.id d.issued)) asks
  · refine ensures_iff_obeys.mpr (Action.obeys_startReauth_at held registered ?_)
    exact opensBy_entered considerate (keeps (Issue.id d.issued)) asks
  · exact ensures_submit_entered considerate (keeps id) listed asks

/-- The weakest terms that are considerate and on which a flow that is over stays so. -/
def lasting (F : Signature) (own : String → Prop) : Terms (Desk H) (.desk F) where
  finds q reply d t := (calm F own).finds q reply d t ∧ ∀ id, d.Dropped id → t.Dropped id
  writes _ _ _ := True

/-- Where the lamp is found. -/
def lampAddress : Data := Std.ExtTreeMap.insert ∅ "host" (.text "10.0.0.2")

/-- Flows that claim a unique id and ask for a lamp at once. -/
def quickSteps : Steps Unit .hosting := fun _ _ => do
  let _ ← Step.claim "y" true
  return .create "Lamp" lampAddress ∅

def quickLamps : Integration Unit := { start := (), options := fun _ => none }

/-- A desk with a lamp, where lamps are set up by their integration. -/
def quickDesk : Desk Unit where
  registry := { Registry.lit with handled := Std.ExtTreeSet.insert ∅ "light" }
  integrations := Std.ExtTreeMap.insert ∅ "light" quickLamps
  now := .epoch

/-- The desk on which the flow asks for its lamp: it is listed and holds its unique id. -/
def quickAsking : Desk Unit :=
  let listed := quickDesk.issue.2.enroll .config ()
    ⟨Issue.id 0, "light", .user, 1, none, none⟩ "user"
  (listed.claim (Issue.id 0) "y" true).2

def quickLamp : Entry :=
  quickAsking.made (quickAsking.contextOf (Issue.id 0)) "Lamp" lampAddress ∅

def asksForLamp (heard : List (Heard (Desk Unit) (.desk .hosting))) (s : Desk Unit) (title : String)
    (data options : Data) : Prop :=
  heard = [] ∧ s = quickAsking ∧ title = "Lamp" ∧ data = lampAddress ∧ options = ∅

/-- The start of the flow is answered by what comes of the lamp. It comes to ask for the setup of
the lamp, and only for that; should it fail, the flow has made its entry all the same, and the other
lamp is as it was. -/
theorem lamp_commits :
    Considerate (fun _ => True) (lasting (H := Unit) .hosting fun _ => True) ∧
    (Action.startConfig quickSteps "light" .user none).run.Ensures
      (lasting .hosting fun _ => True)
      (entered (fun _ => True) asksForLamp (Issue.id 0)) [] quickDesk ∧
    ∃ next t u, advance (Action.startConfig quickSteps "light" .user none).run quickDesk =
        (.waiting (.hosting (.setUp quickLamp)) next, t) ∧
      advance (next (.failed "unreachable")) t =
        (.done (.ok ⟨Issue.id 0, "light",
          .created "Lamp" lampAddress ∅ 1 (some quickLamp.id)⟩), u) ∧
      quickLamp.uniqueId = some "y" ∧
      u.registry.get? quickLamp.id = some (quickLamp.failed "unreachable") ∧
      u.registry.get? "a" = some Registry.lampA := by
  have considerate : Considerate (fun _ => True) (lasting (H := Unit) .hosting fun _ => True) :=
    ⟨fun _ _ _ _ found => found.1, fun _ _ _ => trivial⟩
  have coherent : quickAsking.Coherent fun _ => True :=
    ⟨Registry.lit_indexed, Registry.lit_found, rfl, trivial⟩
  have registered : quickDesk.integrations["light"]? = some quickLamps := by simp [quickDesk]
  have listed : ∃ f, quickAsking.flows[Issue.id 0]? = some f := ⟨_, rfl⟩
  refine ⟨considerate, (config_flow_commits considerate (fun _ _ _ _ found => found.2) quickSteps
    asksForLamp quickDesk).1 "light" .user none quickLamps registered ?_, ?_⟩
  · exact ⟨trivial, "Lamp", lampAddress, ∅, (), rfl, coherent, listed, rfl, rfl, rfl, rfl, rfl⟩
  · exact ⟨_, _, _, rfl, rfl, rfl, rfl, rfl⟩

end Desk

end Onboarding
