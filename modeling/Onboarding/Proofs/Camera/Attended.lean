import Onboarding.Proofs.Camera.Due

/-! The calls on the flows of cameras. Whoever else acts meanwhile, they keep what is kept by adding
an entry under an address that a device has reported, by updates that leave the unique ids and by
the lifecycle, and they answer as they owe. -/
namespace Onboarding.Camera

open Desk Job

/-- What the writes on the flows of cameras keep, when all addresses that devices report have `M`.
-/
structure Welcomes (P : Desk Memory → Prop) (M : String → Prop) : Prop where
  aside : ∀ {d t : Desk Memory}, P d → t.registry = d.registry → t.issued = d.issued → P t
  draw : ∀ {d : Desk Memory}, P d → P d.issue.2
  onboard : ∀ {d : Desk Memory} {e : Entry} {m : String}, P d → M m → e.id = Issue.id d.issued →
    e.identity? = some ⟨domain, Device.canonicalAddress m⟩ → P (d.issue.2.mutate (·.add e)).2
  renew : ∀ {d : Desk Memory} {u : Entry.Update} (id : String) (now : Instant), P d →
    u.uniqueId = none → P (d.mutate (·.update id u now)).2
  lifecycle : ∀ {d : Desk Memory} {r : Registry}, P d → Registry.Lifecycle d.registry r →
    P { d with registry := r }

section Rules

variable {P : Desk Memory → Prop} {M : String → Prop} {d t : Desk Memory} {id : String}
  {f : Flow Memory} {draft : Draft} {p : Party (Option String)} {kind : FlowKind}
  {heard : List (Heard (Desk Memory) (.desk device))}

theorem attending_note (welcomes : Welcomes P M) (kept : Attending P d) (notes : d.Notes t)
    (flows : ∀ (id : String) (f : Flow Memory), t.flows[id]? = some f → Fits f) :
    Attending P t ∧ Later d t :=
  have ⟨furnished, later⟩ := kept.1.note notes flows
  ⟨⟨furnished, welcomes.aside kept.2 notes.registry notes.issued⟩, later⟩

/-- What a flow remembers may be changed as it fits. -/
theorem attending_remember (welcomes : Welcomes P M) (kept : Attending P d) {memory : Memory}
    (fits : ∀ f, d.flows[id]? = some f → Fits { f with memory }) :
    Attending P (d.modifyFlow id ({ · with memory })) ∧
      Later d (d.modifyFlow id ({ · with memory })) :=
  attending_note welcomes kept (d.notes_modifyFlow id fun _ => ⟨rfl, rfl⟩)
    (kept.1.flow_modifyFlow id _ fits)

/-- A change of one flow that leaves its form and what it remembers. -/
theorem attending_mark (welcomes : Welcomes P M) (kept : Attending P d) (id : String)
    (change : Flow Memory → Flow Memory) (same : ∀ f : Flow Memory, f.Same (change f))
    (memory : ∀ f, (change f).memory = f.memory) (step : ∀ f, (change f).step = f.step) :
    Attending P (d.modifyFlow id change) ∧ Later d (d.modifyFlow id change) :=
  attending_note welcomes kept (d.notes_modifyFlow id same)
    (kept.1.flow_modifyFlow id change fun f here =>
      (kept.1.flows id f here).same (same f) (memory f) (step f))

theorem attending_delist (welcomes : Welcomes P M) (kept : Attending P d) :
    Attending P (d.delist id) ∧ Later d (d.delist id) :=
  attending_note welcomes kept (d.notes_delist id) kept.1.flows

theorem attending_close (welcomes : Welcomes P M) (kept : Attending P d) (id : String) :
    Attending P (d.close id) ∧ Later d (d.close id) :=
  have ⟨marked, later⟩ := attending_mark welcomes kept id ({ · with finished := true })
    (fun _ => ⟨rfl, rfl⟩) (fun _ => rfl) fun _ => rfl
  have ⟨closed, later'⟩ := attending_delist welcomes marked
  ⟨closed, later.trans later'⟩

theorem closes_attends (welcomes : Welcomes P M) (id : String) :
    Action.Closes ((attended P M).terms p) (attends P) id where
  frees ended :=
    have freed := attending_mark welcomes ended.1 id ({ · with busy := false })
      (fun _ => ⟨rfl, rfl⟩) (fun _ => rfl) fun _ => rfl
    ⟨⟨freed, trivial⟩, freed.1, ended.2⟩
  delists ended :=
    have delisted := attending_delist welcomes ended.1
    ⟨⟨delisted, trivial⟩, delisted.1, ended.2⟩

/-! What is settled. -/

/-- How a call fails when a step of its flow does. -/
def failure : StepError → Option FlowError
  | .abort _ => none
  | .unknownStep step => some (.unknownStep step)
  | .registry e => some (.registry e)

theorem attends_fail (welcomes : Welcomes P M) (kept : Attending P d) {memory : Memory}
    {e : StepError} {error : FlowError} (fails : failure e = some error)
    (fits : ∀ f, d.flows[id]? = some f → Fits { f with memory }) (due : Due P heard (.error error)) :
    (Action.settle id kind (.error e, memory)).run.Ensures ((attended P M).terms p) (attends P)
      heard d := by
  have noted := attending_remember welcomes kept fits
  refine ⟨⟨noted, trivial⟩, ?_⟩
  cases e with
  | abort reason => cases fails
  | unknownStep step =>
    cases fails
    exact ⟨noted.1, by rintro answer ⟨⟩; exact due⟩
  | registry e =>
    cases fails
    exact ⟨noted.1, by rintro answer ⟨⟩; exact due⟩

theorem attends_abort (welcomes : Welcomes P M) (kept : Attending P d) {memory : Memory}
    {reason : String} (fits : ∀ f, d.flows[id]? = some f → Fits { f with memory })
    (due : ∀ c, Due P heard (.ok (Action.result c (.aborted reason)))) :
    (Action.settle id kind (.ok (.abort reason), memory)).run.Ensures ((attended P M).terms p)
      (attends P) heard d := by
  have noted := attending_remember welcomes kept fits
  have closed := attending_close welcomes noted.1 id
  exact ⟨⟨noted, trivial⟩, ⟨closed, trivial⟩, closed.1, by rintro answer ⟨⟩; exact due _⟩

theorem attends_form (welcomes : Welcomes P M) (kept : Attending P d) {memory : Memory} {page : Page}
    (fits : ∀ f, d.flows[id]? = some f → Fits { f with memory } ∧
      Fits { f with memory, step := page.step, schema := page.schema })
    (due : ∀ c, Due P heard (.ok (Action.result c (.form page)))) :
    (Action.settle id kind (.ok (.form page), memory)).run.Ensures ((attended P M).terms p)
      (attends P) heard d := by
  have noted := attending_remember welcomes kept fun f here => (fits f here).1
  have shown := attending_note welcomes noted.1 (Desk.notes_showPage _ id page)
    (noted.1.1.flow_modifyFlow id ({ · with step := page.step, schema := page.schema })
      fun f here => by
        rw [flow_modifyFlow_self, Option.map_eq_some_iff] at here
        obtain ⟨old, before, rfl⟩ := here
        exact (fits old before).2)
  exact ⟨⟨noted, trivial⟩, ⟨shown, trivial⟩, shown.1, by rintro answer ⟨⟩; exact due _⟩

/-- While an action of the registry is carried out, the flows stay what they are. -/
theorem attends_host {α : Type} (welcomes : Welcomes P M) (kept : Attending P d)
    {a : Registry.Action α} (cycles : a.Cycles) :
    (Work.host a : Work Memory device _).Ensures ((attended P M).terms p)
      (fun later _ t => heard <+: later ∧ Attending P t ∧ Later d t) heard d := by
  have lifecycle (t : Desk Memory) (r : Registry) (kept : Attending P t ∧ Later d t)
      (moved : Registry.Lifecycle t.registry r) :
      (Attending P { t with registry := r } ∧ Later d { t with registry := r }) ∧
        Later t { t with registry := r } := by
    have ⟨furnished, later⟩ := kept.1.1.aside (t := { t with registry := r }) rfl rfl rfl rfl
    exact ⟨⟨⟨furnished, welcomes.lifecycle kept.1.2 moved⟩, kept.2.trans later⟩, later⟩
  refine ensures_grown (ensures_mono (Later d) (fun q r s t since found => ?_)
    (fun heard s t since written => ?_) (fun _ _ _ _ kept => kept) (.refl d)
    (ensures_of_keeps ⟨kept, .refl d⟩ (Work.keeps_host lifecycle cycles d ⟨kept, .refl d⟩)))
  · have later := since.trans found.2.2
    exact ⟨⟨found.2.1, later⟩, later⟩
  · exact ⟨⟨⟨written.1.1, written.2⟩, trivial⟩, written.1.2⟩

/-- A device that is onboarded is added under the address that it reported. -/
theorem attends_create (welcomes : Welcomes P M) (kept : Attending P d) {memory : Memory}
    {m title : String} {data options : Data} (reported : M m)
    (handler : (d.contextOf id).handler = domain)
    (claimed : (d.contextOf id).uniqueId = some (Device.canonicalAddress m))
    (fits : ∀ f, d.flows[id]? = some f → Fits { f with memory })
    (due : ∀ later answer, heard <+: later → Due P later answer) :
    (Action.settle id .config (.ok (.create title data options), memory)).run.Ensures
      ((attended P M).terms p) (attends P) heard d := by
  have noted := attending_remember welcomes kept fits
  have closed := attending_close welcomes noted.1 id
  let t := (d.modifyFlow id ({ · with memory })).close id
  let e := Action.candidate t (d.contextOf id) title data options
  have identity : e.identity? = some ⟨domain, Device.canonicalAddress m⟩ := by
    rw [Entry.identity?, ← handler]
    exact congrArg (Option.map (Identity.mk (d.contextOf id).handler)) claimed
  obtain ⟨issued, later⟩ := closed.1.1.issue
  obtain ⟨added, later'⟩ := issued.aside (t := (t.issue.2.mutate (·.add e)).2) rfl rfl rfl rfl
  have kept : Attending P (t.issue.2.mutate (·.add e)).2 :=
    ⟨added, welcomes.onboard closed.1.2 reported rfl identity⟩
  refine Action.ensures_settle_create ⟨noted, trivial⟩ ⟨closed, trivial⟩
    (Action.ensures_registerEntry rfl ⟨⟨⟨issued, welcomes.draw closed.1.2⟩, later⟩, trivial⟩
      ⟨⟨kept, later'⟩, trivial⟩ (fun _ _ => ⟨kept, fun answer _ => due _ answer List.prefix_rfl⟩)
      (fun _ _ _ => ⟨kept, fun answer _ => due _ answer List.prefix_rfl⟩) fun added _ => ?_)
  refine ensures_imp (fun later ended u hosted => ?_)
    (attends_host welcomes kept (Registry.Action.cycles_setUp added.id))
  exact ⟨hosted.2.1, fun answer _ => due later answer hosted.1⟩

/-! An attempt. -/

/-- Nothing has been heard of a device yet. -/
def Unmet (heard : List (Heard (Desk Memory) (.desk device))) : Prop :=
  told heard = none ∧ leftAt heard = none

section Attempt

variable {input : Data} {c : Client} {h : Handshake} {l : Except Fault Unit}
  {d₁ d₂ d₃ : Desk Memory} {i : Identified}

theorem told_exchanged (unmet : Unmet heard) :
    told (heard ++ exchanged input c h l d₁ d₂ d₃) = some h := by
  have before := unmet.1
  rw [told] at before ⊢
  rw [List.findSome?_append, before]
  rfl

theorem leftAt_exchanged (unmet : Unmet heard) :
    leftAt (heard ++ exchanged input c h l d₁ d₂ d₃) = some d₃ := by
  have before := unmet.2
  rw [leftAt] at before ⊢
  rw [List.findSome?_append, before]
  rfl

/-- The device is known, or not to be repaired. -/
theorem attends_onboard (welcomes : Welcomes P M) (kept : Attending P (claimed d id i.uniqueId))
    (before : Attending P d) (here : d.flows[id]? = some f) (suits : Suits draft f)
    (recognised : Recognised heard h i d) (reported : ∀ m, h.report.address = some m → M m) :
    Decides ((attended P M).terms p) (attends P) id .config (Part.onboard input i draft) heard
      (claimed d id i.uniqueId) := by
  obtain ⟨m, address, uniqueId⟩ := Handshake.outcome_ok recognised.outcome
  have context := contextOf_claimed here i.uniqueId
  have fits (g : Flow Memory) (there : (claimed d id i.uniqueId).flows[id]? = some g) :
      Fits { g with memory := .inl draft } := by
    have same := flow_modifyFlow_self
      (d.modifyProgress id ({ · with uniqueId := some i.uniqueId })) id
      fun f => { f with context := { f.context with uniqueId := some i.uniqueId } }
    rw [← claimed, there, show (d.modifyProgress id _).flows[id]? = some f from here] at same
    cases same
    exact (kept.1.flows id _ there).remember ⟨suits.kind, suits.handler, suits.reauth⟩
  refine decides_onboard here ?_
  rw [suits.handler]
  cases known : d.registry.holder? ⟨domain, i.uniqueId⟩ with
  | none =>
    refine attends_create welcomes kept (reported m address) ?_ ?_ fits
      fun later answer grown => due_new (recognised.grow grown) before known
    · rw [context]
      exact suits.handler
    · rw [context, uniqueId]
  | some e =>
    exact attends_abort welcomes kept fits fun c => due_acknowledged recognised before (.inl rfl)

/-- What becomes of a device that is to be repaired, once its entry has been updated. -/
theorem attends_updated (welcomes : Welcomes P M) {t : Desk Memory} (kept : Attending P t)
    (there : t.flows[id]? = some f) (suits : Suits draft f) (recognised : Recognised heard h i d)
    (before : Attending P d) (entryId : String) (result : Except RegistryError Bool) :
    Decides ((attended P M).terms p) (attends P) id .config (Part.updated draft entryId result)
      heard t := by
  have fits {u : Desk Memory} (kept : Attending P u) (later : Later t u) (g : Flow Memory)
      (here : u.flows[id]? = some g) : Fits { g with memory := .inl draft } := by
    obtain ⟨g', here', same⟩ := later.flows id f there
    cases here.symm.trans here'
    exact (kept.1.flows id g here).remember (suits.same same)
  match result with
  | .error e =>
    change (Action.settle id .config (.error (.registry e), _)).run.Ensures _ _ _ _
    exact attends_fail welcomes kept rfl (fits kept (.refl t))
      (due_acknowledged recognised before ⟨e, rfl⟩)
  | .ok false =>
    exact attends_abort welcomes kept (fits kept (.refl t)) fun _ =>
      due_acknowledged recognised before (.inr rfl)
  | .ok true =>
    refine decides_reload (ensures_imp (fun later' ended v hosted => ?_)
      (attends_host welcomes kept (Registry.Action.cycles_reload entryId)))
    obtain ⟨grown, kept, later⟩ := hosted
    have recognised := recognised.grow grown
    cases ended with
    | error x => exact ⟨kept, by rintro answer ⟨⟩⟩
    | ok reloaded =>
      change (Action.settle id .config (repaired reloaded, _)).run.Ensures _ _ _ _
      rcases repaired_cases reloaded with success | ⟨e, fails⟩
      · rw [success]
        exact attends_abort welcomes kept (fits kept later) fun _ =>
          due_acknowledged recognised before (.inr rfl)
      · rw [fails]
        exact attends_fail welcomes kept rfl (fits kept later)
          (due_acknowledged recognised before ⟨e, rfl⟩)

/-- What becomes of a device that has been identified. -/
theorem attends_identified (welcomes : Welcomes P M) (kept : Attending P d)
    (here : d.flows[id]? = some f) (suits : Suits draft f) (recognised : Recognised heard h i d)
    (reported : ∀ m, h.report.address = some m → M m) :
    Decides ((attended P M).terms p) (attends P) id .config (afterProbe input (.ok i) draft) heard
      d := by
  have claims : Attending P (claimed d id i.uniqueId) ∧ Later d (claimed d id i.uniqueId) :=
    attending_note welcomes kept (d.notes_claim id i.uniqueId false)
      (kept.1.flow_modifyFlow id _ fun f here =>
        (kept.1.flows id f here).same ⟨rfl, rfl⟩ rfl rfl)
  have onboards : Decides ((attended P M).terms p) (attends P) id .config
      (Part.onboard input i draft) heard (claimed d id i.uniqueId) :=
    attends_onboard welcomes claims.1 kept here suits recognised reported
  refine decides_claim here ⟨claims, trivial⟩ ?_
  rw [suits.handler]
  cases known : d.registry.holder? ⟨domain, i.uniqueId⟩ with
  | none =>
    rw [Part.claimed_onboard input i (.inl rfl)]
    exact onboards
  | some e =>
    cases reauth : draft.reauth with
    | false =>
      rw [Part.claimed_onboard input i (.inr reauth)]
      exact onboards
    | true =>
      rw [Part.claimed_repair input i e reauth]
      obtain ⟨g, there, same⟩ := claims.2.flows id f here
      let u := claimed d id i.uniqueId
      have ⟨furnished, later⟩ := claims.1.1.aside
        (t := (u.mutate (·.update e.id (renewal input i) u.now)).2) rfl rfl rfl rfl
      have renewed := welcomes.renew e.id u.now claims.1.2 (u := renewal input i) rfl
      exact decides_repair rfl ⟨⟨⟨furnished, renewed⟩, later⟩, trivial⟩
        (attends_updated welcomes ⟨furnished, renewed⟩ there (suits.same same) recognised kept
          e.id _)

end Attempt

theorem attends_attempt (welcomes : Welcomes P M) (here : d.flows[id]? = some f)
    (memory : f.memory = .inl draft) (suits : Suits draft f) (unmet : Unmet heard) {input : Data} :
    (Action.takeStep steps id StepName.user (some input)).run.Ensures ((attended P M).terms p)
      (attends P) heard d := by
  refine ensures_attempt here memory fun c d₁ found₁ h d₂ found₂ l d₃ found₃ => ?_
  have kept := found₃.2.1
  have later := found₁.2.2.trans (found₂.2.2.trans found₃.2.2)
  obtain ⟨g, there, same⟩ := later.flows id f here
  have suits := suits.same same
  rw [← same.kind, suits.kind]
  have told : told (heard ++ exchanged input c h l d₁ d₂ d₃) = some h := told_exchanged unmet
  have left : leftAt (heard ++ exchanged input c h l d₁ d₂ d₃) = some d₃ := leftAt_exchanged unmet
  cases outcome : h.outcome with
  | ok i => exact attends_identified welcomes kept there suits ⟨told, outcome, left⟩ found₂.1
  | error fault =>
    have unknown (h' : Handshake) (i : Identified) (d' : Desk Memory) :
        ¬ Recognised (heard ++ exchanged input c h l d₁ d₂ d₃) h' i d' := by
      rintro ⟨told', outcome', _⟩
      cases told.symm.trans told'
      cases outcome.symm.trans outcome'
    have other : StepName.user ≠ StepName.reauth := by decide
    have suits : Suits (draft.keep input) g := ⟨suits.kind, suits.handler, suits.reauth⟩
    refine decides_fault (attends_form welcomes kept (fun f here => ?_) fun c => ?_)
    · cases there.symm.trans here
      exact ⟨(kept.1.flows id g there).remember suits, suits.page other⟩
    · exact due_unrecognised unknown (by rintro ⟨r, title, data, options, version, entryId, ⟨⟩, ⟨⟩⟩)

/-! The steps of all flows, and the calls. -/

theorem unmet_nil : Unmet [] := ⟨rfl, rfl⟩

theorem Unmet.await (unmet : Unmet heard) (id : String) (t : Desk Memory) :
    Unmet (heard ++ [⟨.awaitFlow id, (), t⟩]) := by
  obtain ⟨untold, unleft⟩ := unmet
  refine ⟨?_, ?_⟩
  · rw [told] at untold ⊢
    rw [List.findSome?_append, untold]
    rfl
  · rw [leftAt] at unleft ⊢
    rw [List.findSome?_append, unleft]
    rfl

/-- A call that has heard of no device says nothing of one, as long as it makes no entry. -/
theorem Unmet.due (unmet : Unmet heard) {answer : Except FlowError FlowResult}
    (other : ¬ Creates answer) : Due P heard answer :=
  due_unrecognised (fun h i d recognised => by cases unmet.1.symm.trans recognised.told) other

theorem not_creates_form (c : Context) (page : Page) :
    ¬ Creates (.ok (Action.result c (.form page))) := by
  rintro ⟨r, title, data, options, version, entryId, ⟨⟩, ⟨⟩⟩

theorem not_creates_error (e : FlowError) : ¬ Creates (.error e) := by
  rintro ⟨r, title, data, options, version, entryId, ⟨⟩, _⟩

/-- A step that shows a form at once. -/
theorem attends_page (welcomes : Welcomes P M) (kept : Attending P d) (here : d.flows[id]? = some f)
    (unmet : Unmet heard) {step : String} {input : Option Data} {memory : Memory} (page : Page)
    (done : steps step input f.memory = .done (.ok (.form page), memory))
    (fits : Fits { f with memory })
    (shows : Fits { f with memory, step := page.step, schema := page.schema }) :
    (Action.takeStep steps id step input).run.Ensures ((attended P M).terms p) (attends P) heard d :=
  Action.ensures_takeStep_done here done <|
    attends_form welcomes kept (fun g there => by cases here.symm.trans there; exact ⟨fits, shows⟩)
      fun _ => unmet.due (not_creates_form _ page)

/-- A step that is unknown. -/
theorem attends_unknown (welcomes : Welcomes P M) (kept : Attending P d)
    (here : d.flows[id]? = some f) (unmet : Unmet heard) {step : String} {input : Option Data}
    (done : steps step input f.memory = .done (.error (.unknownStep step), f.memory)) :
    (Action.takeStep steps id step input).run.Ensures ((attended P M).terms p) (attends P) heard d :=
  Action.ensures_takeStep_done here done <|
    attends_fail welcomes kept rfl
      (fun g there => by cases here.symm.trans there; exact kept.1.flows id f here)
      (unmet.due (not_creates_error _))

theorem attends_onboardingStep (welcomes : Welcomes P M) (kept : Attending P d)
    (here : d.flows[id]? = some f) (unmet : Unmet heard) {draft : Draft} (kind : f.kind = .config)
    (memory : f.memory = .inl draft) (handler : f.context.handler = domain)
    (first : f.step = StepName.reauth → f.context.source = .reauth)
    (reauth : f.step ≠ StepName.reauth → (draft.reauth = true ↔ f.context.source = .reauth))
    (input : Option Data) :
    (Action.takeStep steps id f.step input).run.Ensures ((attended P M).terms p) (attends P)
      heard d := by
  have fits := kept.1.flows id f here
  have apart : StepName.user ≠ StepName.reauth ∧ StepName.reauthConfirm ≠ StepName.reauth := by
    decide
  by_cases atReauth : f.step = StepName.reauth
  · have suits : Suits (.ofEntry (input.getD ∅)) f :=
      ⟨kind, handler, fun _ => first atReauth, fun _ => rfl⟩
    refine attends_page welcomes kept here unmet ⟨StepName.reauthConfirm, .empty, ∅, ∅⟩ ?_
      (fits.remember suits) (suits.page ?_)
    · rw [atReauth, memory]
      rfl
    · exact apart.2
  have suits : Suits draft f := ⟨kind, handler, reauth atReauth⟩
  have shown (c : Complaint) := suits.page
    (p := ⟨StepName.user, draft.schema !c.errors.isEmpty, c.errors, c.placeholders⟩) apart.1
  by_cases user : f.step = StepName.user
  · cases input with
    | none =>
      refine attends_page welcomes kept here unmet _ ?_ (fits.remember suits) (shown Complaint.none)
      rw [user, memory]
      rfl
    | some input =>
      rw [user]
      exact attends_attempt welcomes here memory suits unmet
  by_cases confirm : f.step = StepName.reauthConfirm
  · cases input with
    | none =>
      refine attends_page welcomes kept here unmet ⟨StepName.reauthConfirm, .empty, ∅, ∅⟩ ?_
        (fits.remember suits) (suits.page ?_)
      · rw [confirm, memory]
        rfl
      · exact apart.2
    | some input =>
      refine attends_page welcomes kept here unmet _ ?_ (fits.remember suits) (shown Complaint.none)
      rw [confirm, memory]
      rfl
  · have unknown : onboardingSteps f.step input = throw (.unknownStep f.step) := by
      rw [onboardingSteps, if_neg user, if_neg atReauth, if_neg confirm]
    refine attends_unknown welcomes kept here unmet ?_
    rw [memory]
    change (onboardingSteps f.step input draft).bind _ = _
    rw [unknown]
    rfl

/-- New options make no entry. -/
theorem attends_store (welcomes : Welcomes P M) (kept : Attending P d) (unmet : Unmet heard)
    {memory : Memory} {title : String} {data options : Data}
    (fits : ∀ f, d.flows[id]? = some f → Fits { f with memory }) :
    (Action.settle id .options (.ok (.create title data options), memory)).run.Ensures
      ((attended P M).terms p) (attends P) heard d := by
  have noted := attending_remember welcomes kept fits
  have closed := attending_close welcomes noted.1 id
  have due (c : Context) (answer : Except FlowError FlowResult)
      (ended : Except FlowError FlowResult.Body)
      (cases : (∃ e, ended = .error (.registry e)) ∨
        ended = .ok (.created title data options c.version none))
      (same : Except.ok (ended.map (Action.result c)) = (Except.ok answer : Except Crash _)) :
      Due P heard answer := by
    refine unmet.due ?_
    rcases cases with ⟨e, rfl⟩ | rfl <;> cases same
    · exact not_creates_error _
    · rintro ⟨r, title, data, options, version, entryId, ⟨⟩, ⟨⟩⟩
  refine Action.ensures_settle_create ⟨noted, trivial⟩ ⟨closed, trivial⟩
    (Action.ensures_storeOptions ⟨closed.1, fun answer => due _ answer _ (.inr rfl)⟩
      fun entryId _ => ?_)
  let t := (d.modifyFlow id ({ · with memory })).close id
  have ⟨furnished, later⟩ := closed.1.1.aside
    (t := (t.mutate (·.update entryId { options := some data } t.now)).2) rfl rfl rfl rfl
  have renewed := welcomes.renew (u := { options := some data }) entryId t.now closed.1.2 rfl
  exact ⟨⟨⟨⟨furnished, renewed⟩, later⟩, trivial⟩,
    fun ended cases => ⟨⟨furnished, renewed⟩, fun answer => due _ answer ended cases⟩⟩

theorem attends_optionsStep (welcomes : Welcomes P M) (kept : Attending P d)
    (here : d.flows[id]? = some f) (unmet : Unmet heard) {protocol : String}
    (kind : f.kind = .options) (memory : f.memory = .inr protocol) (input : Option Data) :
    (Action.takeStep steps id f.step input).run.Ensures ((attended P M).terms p) (attends P)
      heard d := by
  have fits (step : String) (schema : Schema) :
      Fits { f with memory := .inr protocol, step, schema } := .options kind rfl
  by_cases init : f.step = StepName.init
  · cases input with
    | none =>
      refine attends_page welcomes kept here unmet ⟨StepName.init, protocolSchema protocol, ∅, ∅⟩ ?_
        (fits _ _) (fits _ _)
      rw [init, memory]
      rfl
    | some input =>
      refine Action.ensures_takeStep_done here (r := (.ok (.create "" input ∅), .inr protocol)) ?_ ?_
      · rw [init, memory]
        rfl
      · rw [kind]
        exact attends_store welcomes kept unmet fun g there => by
          cases here.symm.trans there
          exact fits _ _
  · have unknown : optionsSteps f.step input = throw (.unknownStep f.step) := if_neg init
    refine attends_unknown welcomes kept here unmet ?_
    rw [memory]
    change (optionsSteps f.step input protocol).bind _ = _
    rw [unknown]
    rfl

/-- Every step of a flow is attended to. -/
theorem attends_takeStep (welcomes : Welcomes P M) (kept : Attending P d)
    (here : d.flows[id]? = some f) (unmet : Unmet heard) (input : Option Data) :
    (Action.takeStep steps id f.step input).run.Ensures ((attended P M).terms p) (attends P)
      heard d := by
  cases kept.1.flows id f here with
  | onboarding kind memory handler first reauth =>
    exact attends_onboardingStep welcomes kept here unmet kind memory handler first reauth input
  | options kind memory => exact attends_optionsStep welcomes kept here unmet kind memory input

theorem attends_submit (welcomes : Welcomes P M) (kept : Attending P d) (id : String)
    (input : Data) :
    (Action.submit steps id input).run.Ensures ((attended P M).terms p) (attends P) [] d := by
  have fails {heard : List (Heard (Desk Memory) (.desk device))} {d : Desk Memory}
      (unmet : Unmet heard) (kept : Attending P d) (e : FlowError) :
      attends P heard (.ok (.error e)) d :=
    ⟨kept, by rintro answer ⟨⟩; exact unmet.due (not_creates_error e)⟩
  by_cases listed : id ∈ d.listed
  · refine Action.ensures_submit (closes_attends welcomes id) listed fun heard t reached => ?_
    obtain ⟨unmet, kept⟩ : Unmet heard ∧ Attending P t := by
      rcases reached with ⟨_, rfl, rfl⟩ | ⟨_, found, rfl⟩
      · exact ⟨unmet_nil, kept⟩
      · exact ⟨unmet_nil.await id t, found.2.1⟩
    have taken := attending_mark welcomes kept id ({ · with busy := true }) (fun _ => ⟨rfl, rfl⟩)
      (fun _ => rfl) fun _ => rfl
    exact ⟨⟨taken, trivial⟩, Action.ensures_answering (fun _ => fails unmet taken.1)
      fun flow clean answerable =>
        attends_takeStep welcomes taken.1 answerable.1 unmet (some clean)⟩
  · exact Action.ensures_unlisted listed (fails unmet_nil kept _)

theorem attends_opens (welcomes : Welcomes P M) (kept : Attending P d) :
    Action.Opens steps ((attended P M).terms p) (attends P) [] d := by
  intro kind memory c step data opening
  have ⟨issued, later⟩ := kept.1.issue
  have ⟨listed, later'⟩ := kept.1.enroll opening
  have drawn := welcomes.draw kept.2
  have enrolled : Attending P (d.issue.2.enroll kind memory c step) :=
    ⟨listed, welcomes.aside drawn rfl rfl⟩
  refine ⟨⟨⟨⟨issued, drawn⟩, later⟩, trivial⟩, ⟨⟨enrolled, later'⟩, trivial⟩, ?_⟩
  have here : (d.issue.2.enroll kind memory c step).flows[c.flowId]? =
      some { kind, memory, context := c, step, schema := .empty, busy := true } := by
    rw [flow_enroll, if_pos rfl]
  exact Action.ensures_underWay (closes_attends welcomes c.flowId)
    (attends_takeStep welcomes enrolled here unmet_nil data)

theorem attends_call (welcomes : Welcomes P M) (kept : Attending P d) (c : Call) {number : Nat} :
    (attended P M).Meets ⟨number, some (c.flow d)⟩ (c.job steps) [] d := by
  have ends : (c.action steps).run.Ensures ((attended P M).terms ⟨number, some (c.flow d)⟩)
      (attends P) [] d := by
    have fails (e : FlowError) : attends P [] (.ok (.error e)) d :=
      ⟨kept, by rintro answer ⟨⟩; exact unmet_nil.due (not_creates_error e)⟩
    have opens := attends_opens (p := ⟨number, some (c.flow d)⟩) welcomes kept
    cases c with
    | start handler source data => exact Action.ensures_startConfig fails opens
    | startReauth entryId => exact Action.ensures_startReauth fails opens
    | startOptions entryId => exact Action.ensures_startOptions fails opens
    | submit id input => exact attends_submit welcomes kept id input
  refine ensures_bind.mpr (ensures_imp (fun heard ended t attended => ?_) ends)
  cases ended with
  | ok answer =>
    rintro answer ⟨⟩
    exact attended.2 answer rfl
  | error x => rintro answer ⟨⟩

/-- Whatever is done at the desk under a condition that admits cameras alone, and under which
changes of the registry keep `P` and devices report addresses with `M`, every call is attended to.
-/
theorem serves_attended (welcomes : Welcomes P M) {A : Desk Memory → Event Memory device → Prop}
    (changes : ∀ {d c}, Attending P d → A d (.change c) → P (d.changed c))
    (cameras : ∀ {d handler i}, A d (.integrate handler i) → handler = domain ∧ i = integration)
    (reports : ∀ {d place say}, A d (.reply place say) → ∀ q r m, say q = some r →
      Reports q r m → M m) :
    Serves steps (attended P M) A where
  change {d c} kept allowed :=
    have ⟨furnished, later⟩ := kept.1.aside (t := d.changed c) rfl rfl rfl rfl
    ⟨⟨furnished, changes kept allowed⟩, later⟩
  abort {d id} kept _ := by
    unfold Desk.abort
    split
    · exact attending_delist welcomes kept
    · exact ⟨kept, .refl d⟩
  issue kept _ :=
    have ⟨furnished, later⟩ := kept.1.issue
    ⟨⟨furnished, welcomes.draw kept.2⟩, later⟩
  integrate {d handler i} kept allowed := by
    obtain ⟨rfl, rfl⟩ := cameras allowed
    have ⟨furnished, later⟩ := kept.1.integrate
    exact ⟨⟨furnished, welcomes.aside kept.2 rfl rfl⟩, later⟩
  time {d now} kept _ :=
    have ⟨furnished, later⟩ := kept.1.aside (t := { d with now }) rfl rfl rfl rfl
    ⟨⟨furnished, welcomes.aside kept.2 rfl rfl⟩, later⟩
  errand {d e number} kept _ := by
    refine ensures_bind.mpr (ensures_imp (fun heard ended t _ => ?_)
      (attends_host welcomes kept e.cycles))
    cases ended <;> rintro answer ⟨⟩
  reply allowed q r said m := reports allowed q r m said
  call kept _ := attends_call welcomes kept _

theorem furnished_opened (handled : Std.ExtTreeSet String) (now : Instant) :
    Furnished (Record.opened (F := device) handled now).state where
  numbered := numbered_opened (F := device) handled now
  integrations handler i here := by simp [Record.opened] at here
  flows id f here := by simp [Record.opened] at here

end Rules

end Onboarding.Camera
