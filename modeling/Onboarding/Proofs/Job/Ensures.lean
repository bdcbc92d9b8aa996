import Onboarding.Proofs.Job.Protocol

/-! Jobs that ensure an end on given terms: whatever such a job is told and finds after its waits,
it writes only what it may, and it ends as it should. It owes nothing where it waits, so this is to
keep to a protocol, and what holds of protocols holds of terms. A job asks finitely often, so to
ensure an end is also to come to it as soon as every request is replied to. -/
namespace Onboarding.Job

variable {σ τ ε : Type} {F G : Signature} {α β : Type}

/-- On the given terms the job ends as it should, after what it has heard already. -/
def Ensures (T : Terms σ F) (post : Post σ F α) : Job σ F α → List (Heard σ F) → σ → Prop
  | .done a, heard, s => post heard (.ok a) s
  | .crash x, heard, s => post heard (.error x) s
  | .ask .read next, heard, s => Ensures T post (next s) heard s
  | .ask (.write t) next, heard, s => T.writes heard s t ∧ Ensures T post (next ()) heard t
  | .ask (.outside q) next, heard, s =>
    ∀ r t, T.finds q r s t → Ensures T post (next r) (heard ++ [⟨q, r, t⟩]) t

variable {T : Terms σ F} {heard : List (Heard σ F)} {s : σ}

theorem ensures_iff_obeys {T : Terms σ F} {post : Post σ F α} {j : Job σ F α} :
    j.Ensures T post heard s ↔ j.Obeys T.silent post heard s := by
  induction j generalizing heard s with
  | done => exact Iff.rfl
  | crash => exact Iff.rfl
  | ask q next ih =>
    match q with
    | .read => exact ih s
    | .write t => exact and_congr_right fun _ => ih ()
    | .outside q =>
      refine Iff.trans ?_ (Iff.of_eq (true_and _).symm)
      exact forall_congr' fun r => forall_congr' fun t => imp_congr_right fun _ => ih r

/-- What is to hold after a job that another one follows: the other one ensures the end. -/
def andThen (T : Terms σ F) (f : α → Job σ F β) (post : Post σ F β) : Post σ F α
  | heard, .ok a, s => (f a).Ensures T post heard s
  | heard, .error x, s => post heard (.error x) s

theorem ensures_bind {j : Job σ F α} {f : α → Job σ F β} {post : Post σ F β} :
    (j >>= f).Ensures T post heard s ↔ j.Ensures T (andThen T f post) heard s := by
  have same : andObeys T.silent f post = andThen T f post := by
    funext heard e t
    cases e with
    | ok a => exact propext ensures_iff_obeys.symm
    | error x => rfl
  rw [ensures_iff_obeys, obeys_bind, same, ensures_iff_obeys]

/-- A job that ensures an end on some terms ensures another one on other terms, if these follow
from the first while an invariant holds. -/
theorem ensures_mono {S : Terms σ F} {j : Job σ F α} {post later : Post σ F α} (I : σ → Prop)
    (finds : ∀ q r s t, I s → S.finds q r s t → T.finds q r s t ∧ I t)
    (writes : ∀ heard s t, I s → T.writes heard s t → S.writes heard s t ∧ I t)
    (weaker : ∀ heard e t, I t → post heard e t → later heard e t) (start : I s)
    (ensures : j.Ensures T post heard s) : j.Ensures S later heard s := by
  rw [ensures_iff_obeys] at ensures ⊢
  exact obeys_mono (π := T.silent) (fun _ => I)
    (fun _ q r s t kept _ found => finds q r s t kept found) writes (fun _ _ _ _ waits => waits)
    weaker start ensures

theorem ensures_imp {j : Job σ F α} {post later : Post σ F α}
    (weaker : ∀ heard e t, post heard e t → later heard e t) (ensures : j.Ensures T post heard s) :
    j.Ensures T later heard s := by
  rw [ensures_iff_obeys] at ensures ⊢
  exact obeys_imp weaker ensures

/-- A job that reads the state goes on with what it is. -/
theorem ensures_run_get_bind {ε : Type} {f : σ → ExceptT ε (Job σ F) α}
    {post : Post σ F (Except ε α)} :
    (get >>= f : ExceptT ε (Job σ F) α).run.Ensures T post heard s ↔
      (f s).run.Ensures T post heard s := Iff.rfl

theorem advance_run_get_bind (f : σ → ExceptT ε (Job σ F) α) (s : σ) :
    advance (get >>= f : ExceptT ε (Job σ F) α).run s = advance (f s).run s := rfl

/-- What a job has heard it has heard for good. -/
theorem ensures_grown {j : Job σ F α} {post : Post σ F α} (ensures : j.Ensures T post heard s) :
    j.Ensures T (fun later e t => heard <+: later ∧ post later e t) heard s := by
  rw [ensures_iff_obeys] at ensures ⊢
  exact obeys_grown ensures

/-- What is to hold before the last act of a job, which comes however the job ends. -/
def beforeLast (T : Terms σ F) (last : Job σ F Unit) (post : Post σ F α) : Post σ F α
  | heard, e, s =>
    last.Ensures T (fun heard closed t => post heard (closed.bind fun _ => e) t) heard s

theorem ensures_closing {j : Job σ F α} {last : Job σ F Unit} {post : Post σ F α} :
    Ensures T post (j.closing last) heard s ↔ j.Ensures T (beforeLast T last post) heard s := by
  have same : beforeClosing T.silent last post = beforeLast T last post := by
    funext heard e t
    exact propext ensures_iff_obeys.symm
  rw [ensures_iff_obeys, obeys_closing, same, ensures_iff_obeys]

/-- The last act of a job comes where the job ends. -/
theorem advance_closing (j : Job σ F α) (last : Job σ F Unit) (s : σ) :
    advance (j.closing last) s = match advance j s with
      | (.done a, t) => advance (last >>= fun _ => .done a) t
      | (.crashed x, t) => advance (last >>= fun _ => .crash x) t
      | (.waiting q next, t) => (.waiting q fun r => (next r).closing last, t) := by
  induction j generalizing s with
  | done => rfl
  | crash => rfl
  | ask q next ih =>
    match q with
    | .read => exact ih s s
    | .write t => exact ih () t
    | .outside q => rfl

/-- A job that comes to its end without the outside ensures what holds there, if it may write. -/
theorem ensures_of_done {j : Job σ F α} {post : Post σ F α} {a : α} {t : σ}
    (writes : ∀ heard s t, T.writes heard s t) (done : advance j s = (.done a, t))
    (ends : post heard (.ok a) t) : j.Ensures T post heard s :=
  ensures_iff_obeys.mpr (obeys_of_done writes done ends)

/-- The job comes to this end and this state, if what it hears after what it has heard already is as
recorded. -/
inductive Reaches :
    Job σ F α → List (Heard σ F) → σ → List (Heard σ F) → Except Crash α → σ → Prop where
  | done (a : α) (heard : List (Heard σ F)) (s : σ) : Reaches (.done a) heard s heard (.ok a) s
  | crash (x : Crash) (heard : List (Heard σ F)) (s : σ) :
    Reaches (.crash x) heard s heard (.error x) s
  | read {next : σ → Job σ F α} {heard later : List (Heard σ F)} {e : Except Crash α} {s t : σ}
    (rest : Reaches (next s) heard s later e t) : Reaches (.ask .read next) heard s later e t
  | write {next : Unit → Job σ F α} {heard later : List (Heard σ F)} {e : Except Crash α}
    {s t u : σ} (rest : Reaches (next ()) heard u later e t) :
    Reaches (.ask (.write u) next) heard s later e t
  | outside {q : F.Request} {r : F.Reply q} {next : F.Reply q → Job σ F α}
    {heard later : List (Heard σ F)} {e : Except Crash α} {s t u : σ}
    (rest : Reaches (next r) (heard ++ [⟨q, r, u⟩]) u later e t) :
    Reaches (.ask (.outside q) next) heard s later e t

/-- What a job ensures, it ensures of an end that it reaches. -/
theorem ensures_reaches {j : Job σ F α} {post : Post σ F α} (ensures : j.Ensures T post heard s) :
    j.Ensures T (fun later e t => j.Reaches heard s later e t ∧ post later e t) heard s := by
  induction j generalizing heard s with
  | done a => exact ⟨.done a heard s, ensures⟩
  | crash x => exact ⟨.crash x heard s, ensures⟩
  | ask q next ih =>
    match q with
    | .read => exact ensures_imp (fun _ _ _ ended => ⟨.read ended.1, ended.2⟩) (ih s ensures)
    | .write u =>
      refine ⟨ensures.1, ?_⟩
      exact ensures_imp (fun _ _ _ ended => ⟨.write ended.1, ended.2⟩) (ih () ensures.2)
    | .outside q =>
      intro r t found
      exact ensures_imp (fun _ _ _ ended => ⟨.outside ended.1, ended.2⟩) (ih r (ensures r t found))

end Onboarding.Job
