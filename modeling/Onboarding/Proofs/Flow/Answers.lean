import Onboarding.Proofs.Flow.Rules

/-! The answers to the calls on a desk. What is kept by every kind of write is kept by all calls,
and the answer names the flow as it was at some moment on the way. -/
namespace Onboarding.Desk.Action

open Job

variable {H : Type} {F : Signature} {P : Desk H → Prop} {R : Desk H → Desk H → Prop} {d : Desk H}
  {heard : List (Heard (Desk H) (.desk F))}

/-- The answer names the flow by the context that it has at a moment with `P`. -/
def Names (P : Desk H → Prop) (id : String) (r : FlowResult) : Prop :=
  ∃ d, P d ∧ r.flowId = (d.contextOf id).flowId

/-- The call keeps `P`, and its answer names the flow. -/
def naming (P : Desk H → Prop) (id : String) :
    Post (Desk H) (.desk F) (Except FlowError FlowResult) := fun _ ended d =>
  P d ∧ ∀ r, ended = .ok (.ok r) → Names P id r

theorem naming_throw (kept : P d) (id : String) (e : FlowError) :
    (throw e : Action H F FlowResult).run.Ensures (.keeping P R) (naming P id) heard d :=
  ⟨kept, by rintro r ⟨⟩⟩

theorem naming_body {a : Action H F FlowResult.Body} (always : a.run.Always P R) {c : Context}
    {id : String} (kept : P d) (named : ∀ body, Names P id (result c body)) :
    (a >>= fun body => pure (result c body)).run.Ensures (.keeping P R) (naming P id) heard d := by
  refine ensures_result (ensures_imp (fun heard ended t kept => ⟨kept, ?_⟩)
    (ensures_of_keeps kept (always d kept)))
  rintro r answer
  match ended with
  | .ok (.ok body) =>
    cases answer
    exact named body
  | .ok (.error e) => cases answer
  | .error x => cases answer

theorem naming_conclude (closed : Closed P R) (id : String) (kind : FlowKind) (o : Outcome)
    (kept : P d) :
    (conclude id kind o).run.Ensures (.keeping P R) (naming P id) heard d := by
  have named (body : FlowResult.Body) : Names P id (result (d.contextOf id) body) := ⟨d, kept, rfl⟩
  have closes := closed.note kept (d.notes_close id)
  cases o with
  | form p =>
    have shown := closed.note kept (d.notes_showPage id p)
    exact ⟨shown, shown.1, by rintro r ⟨⟩; exact named _⟩
  | abort reason => exact ⟨closes, closes.1, by rintro r ⟨⟩; exact named _⟩
  | create title data options =>
    refine ⟨closes, ?_⟩
    cases kind with
    | config => exact naming_body (keeps_registerEntry closed _ _ _ _) closes.1 named
    | options => exact naming_body (keeps_storeOptions closed _ _ _ _) closes.1 named

theorem naming_settle (closed : Closed P R) (id : String) (kind : FlowKind)
    (r : Except StepError Outcome × H) (kept : P d) :
    (settle id kind r : Action H F FlowResult).run.Ensures (.keeping P R) (naming P id) heard d := by
  obtain ⟨ending, memory⟩ := r
  have noted := closed.note kept
    (d.notes_modifyFlow id (g := ({ · with memory })) fun _ => ⟨rfl, rfl⟩)
  refine ⟨noted, ?_⟩
  match ending with
  | .ok o => exact naming_conclude closed id kind o noted.1
  | .error (.abort reason) => exact naming_conclude closed id kind (.abort reason) noted.1
  | .error (.unknownStep step) => exact naming_throw noted.1 id _
  | .error (.registry e) => exact naming_throw noted.1 id _

theorem naming_takeStep (closed : Closed P R) (steps : Steps H F) (id step : String)
    (input : Option Data) (kept : P d) :
    (takeStep steps id step input).run.Ensures (.keeping P R) (naming P id) heard d := by
  cases here : d.flows[id]? with
  | none => exact ensures_takeStep_missing here ⟨kept, by rintro r ⟨⟩⟩
  | some flow =>
    have taken := keeps_interpret (Work.keeps_answer closed id) (steps step input flow.memory) kept
    refine (ensures_takeStep_iff here).mpr
      (ensures_imp (fun heard ended t kept => ?_) (ensures_of_keeps kept taken))
    cases ended with
    | ok r => exact naming_settle closed id flow.kind r kept
    | error x => exact ⟨kept, by rintro r ⟨⟩⟩

theorem closes_naming (closed : Closed P R) (id : String) :
    Closes (F := F) (.keeping P R) (naming P id) id where
  frees named :=
    have freed := closed.note named.1
      (notes_modifyFlow _ id (g := ({ · with busy := false })) fun _ => ⟨rfl, rfl⟩)
    ⟨freed, freed.1, named.2⟩
  delists named :=
    have delisted := closed.note named.1 (notes_delist _ id)
    ⟨delisted, delisted.1, named.2⟩

theorem naming_underWay (closed : Closed P R) (steps : Steps H F) (id step : String)
    (data : Option Data) (kept : P d) :
    (underWay steps id step data).run.Ensures (.keeping P R) (naming P id) heard d :=
  ensures_underWay (closes_naming closed id) (naming_takeStep closed steps id step data kept)

theorem naming_submit (closed : Closed P R) (steps : Steps H F) (id : String) (input : Data)
    (kept : P d) :
    (submit steps id input).run.Ensures (.keeping P R) (naming P id) heard d := by
  have fails {heard : List (Heard (Desk H) (.desk F))} {d : Desk H} (kept : P d) (e : FlowError) :
      naming P id heard (.ok (.error e)) d := ⟨kept, by rintro r ⟨⟩⟩
  by_cases listed : id ∈ d.listed
  · refine ensures_submit (closes_naming closed id) listed fun heard' t reached => ?_
    have there : P t := by
      rcases reached with ⟨_, _, rfl⟩ | ⟨_, found, _⟩
      · exact kept
      · exact found
    have taken := closed.note there
      (t.notes_modifyFlow id (g := ({ · with busy := true })) fun _ => ⟨rfl, rfl⟩)
    exact ⟨taken, ensures_answering (fun _ => fails taken.1) fun flow clean _ =>
      naming_takeStep closed steps id flow.step (some clean) taken.1⟩
  · exact ensures_unlisted listed (fails kept _)

end Onboarding.Desk.Action
