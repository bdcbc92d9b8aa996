import Onboarding.Proofs.Job.Ensures

/-! What every write of a job keeps, whatever is done to the state while the job waits: the job ends
in any way, on terms that speak of states alone. -/
namespace Onboarding

/-- The terms of a job that finds `P` after its waits and keeps `P` and `R` with every write. -/
def Terms.keeping {σ : Type} {F : Signature} (P : σ → Prop) (R : σ → σ → Prop) : Terms σ F where
  finds _ _ _ t := P t
  writes _ s t := P t ∧ R s t

namespace Job

variable {σ τ ε : Type} {F G : Signature} {α β : Type}

/-- Every state that the job writes has `P` and follows the one before by `R`, if the states that
it finds after its waits have `P`. -/
def Keeps (P : σ → Prop) (R : σ → σ → Prop) : Job σ F α → σ → Prop
  | .done _, _ => True
  | .crash _, _ => True
  | .ask .read next, s => Keeps P R (next s) s
  | .ask (.write t) next, s => (P t ∧ R s t) ∧ Keeps P R (next ()) t
  | .ask (.outside _) next, _ => ∀ r t, P t → Keeps P R (next r) t

variable {P : σ → Prop} {R : σ → σ → Prop}

theorem ensures_of_keeps {j : Job σ F α} {heard : List (Heard σ F)} {s : σ} (start : P s)
    (keeps : j.Keeps P R s) :
    j.Ensures (.keeping P R) (fun _ _ t => P t) heard s := by
  induction j generalizing heard s with
  | done => exact start
  | crash => exact start
  | ask q next ih =>
    match q with
    | .read => exact ih s start keeps
    | .write t => exact ⟨keeps.1, ih () keeps.1.1 keeps.2⟩
    | .outside q => exact fun r t kept => ih r kept (keeps r t kept)

theorem keeps_of_ensures {j : Job σ F α} {post : Post σ F α} {heard : List (Heard σ F)} {s : σ}
    (ensures : j.Ensures (.keeping P R) post heard s) : j.Keeps P R s := by
  induction j generalizing heard s with
  | done => trivial
  | crash => trivial
  | ask q next ih =>
    match q with
    | .read => exact ih s ensures
    | .write t => exact ⟨ensures.1, ih () ensures.2⟩
    | .outside q => exact fun r t kept => ih r (ensures r t kept)

theorem keeps_iff_ensures {j : Job σ F α} {s : σ} (start : P s) :
    j.Keeps P R s ↔ j.Ensures (.keeping P R) (fun _ _ t => P t) [] s :=
  ⟨ensures_of_keeps start, keeps_of_ensures⟩

/-- What follows a job may begin at any state that has `P`. -/
theorem keeps_bind {j : Job σ F α} {f : α → Job σ F β} {s : σ} (start : P s)
    (first : Keeps P R j s) (others : ∀ a t, P t → Keeps P R (f a) t) :
    Keeps P R (j >>= f) s := by
  rw [keeps_iff_ensures start, ensures_bind]
  refine ensures_imp (fun heard e t kept => ?_) (ensures_of_keeps start first)
  cases e with
  | ok a => exact ensures_of_keeps kept (others a t kept)
  | error x => exact kept

theorem keeps_closing {j : Job σ F α} {last : Job σ F Unit} {s : σ} (start : P s)
    (first : Keeps P R j s) (closes : ∀ t, P t → Keeps P R last t) :
    Keeps P R (j.closing last) s := by
  rw [keeps_iff_ensures start, ensures_closing]
  exact ensures_imp (fun heard e t kept => ensures_of_keeps kept (closes t kept))
    (ensures_of_keeps start first)

theorem keeps_interpret {S : Signature} {h : ∀ q : S.Request, Job σ F (S.Reply q)}
    (answers : ∀ q s, P s → Keeps P R (h q) s) (p : Prog S α) {s : σ} (start : P s) :
    Keeps P R (p.interpret h) s := by
  induction p generalizing s with
  | done => trivial
  | crash => trivial
  | ask q next ih => exact keeps_bind start (answers q s start) fun r t kept => ih r kept

/-- What the moves of a job keep, the job keeps. -/
theorem keeps_moves {Q : σ → Prop} {T : σ → σ → Prop} (weaker : ∀ s, Q s → P s)
    (moves : ∀ s t, Q s → R s t → Q t ∧ T s t) {j : Job σ F α} {s : σ} (start : Q s)
    (keeps : Keeps P R j s) : Keeps Q T j s := by
  rw [keeps_iff_ensures start]
  refine ensures_mono Q (fun _ _ _ t _ kept => ⟨weaker t kept, kept⟩) (fun _ s t kept written => ?_)
    (fun _ _ _ kept _ => kept) start (ensures_of_keeps (weaker s start) keeps)
  have moved := moves s t kept written.2
  exact ⟨moved, moved.1⟩

/-- A job on a part of the state keeps of the whole what its moves on that part keep. -/
theorem keeps_within {get : τ → σ} {put : σ → τ → τ} {wider : ∀ q : F.Request, Job τ G (F.Reply q)}
    {Q : τ → Prop} {T : τ → τ → Prop} (get_put : ∀ s t, get (put s t) = s)
    (moves : ∀ t s, Q t → R (get t) s → Q (put s t) ∧ T t (put s t))
    (asks : ∀ q t, Q t → Keeps Q T (wider q) t) {j : Job σ F α} {t : τ} (start : Q t)
    (keeps : Keeps (fun _ => True) R j (get t)) : Keeps Q T (within get put wider j) t := by
  induction j generalizing t with
  | done => trivial
  | crash => trivial
  | ask q next ih =>
    match q with
    | .read => exact ih (get t) start keeps
    | .write s =>
      have moved := moves t s start keeps.1.2
      refine ⟨moved, ih () moved.1 ?_⟩
      rw [get_put]
      exact keeps.2
    | .outside q =>
      exact keeps_bind start (asks q t start) fun r t kept => ih r kept (keeps r (get t) trivial)

/-- The job keeps `P` and `R` wherever it begins. -/
def Always (P : σ → Prop) (R : σ → σ → Prop) (j : Job σ F α) : Prop := ∀ s, P s → Keeps P R j s

theorem always_pure (a : α) : Always P R (pure a : Job σ F α) := fun _ _ => trivial

theorem always_call (q : F.Request) : Always P R (call q : Job σ F (F.Reply q)) :=
  fun _ _ _ _ _ => trivial

theorem always_modify {g : σ → σ} (moves : ∀ s, P s → P (g s) ∧ R s (g s)) :
    Always P R (modify g : Job σ F PUnit) := fun s start => ⟨moves s start, trivial⟩

theorem always_modifyGet {g : σ → α × σ} (moves : ∀ s, P s → P (g s).2 ∧ R s (g s).2) :
    Always P R (modifyGet g : Job σ F α) := fun s start => ⟨moves s start, trivial⟩

theorem always_bind {j : Job σ F α} {f : α → Job σ F β} (first : Always P R j)
    (others : ∀ a, Always P R (f a)) : Always P R (j >>= f) :=
  fun s start => keeps_bind start (first s start) others

theorem always_get_bind {f : σ → Job σ F α} (others : ∀ s, Always P R (f s)) :
    Always P R (get >>= f) := fun s => others s s

theorem always_closing {j : Job σ F α} {last : Job σ F Unit} (first : Always P R j)
    (closes : Always P R last) : Always P R (j.closing last) :=
  fun s start => keeps_closing start (first s start) closes

/-! The same for jobs that may fail. -/

theorem always_run_throw (e : ε) : Always P R (throw e : ExceptT ε (Job σ F) α).run :=
  fun _ _ => trivial

theorem always_run_bind {a : ExceptT ε (Job σ F) α} {f : α → ExceptT ε (Job σ F) β}
    (first : Always P R a.run) (others : ∀ x, Always P R (f x).run) :
    Always P R (a >>= f).run := by
  rw [ExceptT.run_bind]
  refine always_bind first fun x => ?_
  cases x with
  | ok x => exact others x
  | error e => exact always_pure _

theorem always_run_lift {j : Job σ F α} (job : Always P R j) :
    Always P R (ExceptT.lift j : ExceptT ε (Job σ F) α).run :=
  always_bind job fun _ => always_pure _

theorem keeps_run_get_bind {f : σ → ExceptT ε (Job σ F) α} {s : σ}
    (others : (f s).run.Keeps P R s) : (get >>= f : ExceptT ε (Job σ F) α).run.Keeps P R s := others

theorem keeps_run_modifyGet_bind {g : σ → β × σ} {f : β → ExceptT ε (Job σ F) α} {s : σ}
    (moves : P (g s).2 ∧ R s (g s).2) (others : (f (g s).1).run.Keeps P R (g s).2) :
    (modifyGet g >>= f : ExceptT ε (Job σ F) α).run.Keeps P R s := ⟨moves, others⟩

theorem always_run_get_bind {f : σ → ExceptT ε (Job σ F) α}
    (others : ∀ s, Always P R (f s).run) : Always P R (get >>= f : ExceptT ε (Job σ F) α).run :=
  fun s => others s s

theorem always_run_modify_bind {g : σ → σ} {f : PUnit → ExceptT ε (Job σ F) α}
    (moves : ∀ s, P s → P (g s) ∧ R s (g s)) (others : ∀ x, Always P R (f x).run) :
    Always P R (modify g >>= f : ExceptT ε (Job σ F) α).run :=
  fun s start => ⟨moves s start, others ⟨⟩ (g s) (moves s start).1⟩

end Job

end Onboarding
