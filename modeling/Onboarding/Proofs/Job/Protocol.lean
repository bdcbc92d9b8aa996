import Onboarding.Job

/-! What a job comes to in given surroundings. A protocol says what the job may be told and find
after its waits, what it may write, and what is to hold wherever it begins to wait; a job that keeps
to it ends as it should. -/
namespace Onboarding

/-- One reply to a job, and the state that the job went on from. -/
structure Heard (σ : Type) (F : Signature) where
  request : F.Request
  reply : F.Reply request
  found : σ

/-- What a job may be told and find where it waited in a given state, and what it may write after
what it has heard. -/
structure Terms (σ : Type) (F : Signature) where
  finds : (q : F.Request) → F.Reply q → σ → σ → Prop
  writes : List (Heard σ F) → σ → σ → Prop

/-- What is to hold at the end of a job: of all it has heard, of its result, and of the state. -/
abbrev Post (σ : Type) (F : Signature) (α : Type) :=
  List (Heard σ F) → Except Crash α → σ → Prop

/-- Terms, and what is to hold where a job waits. -/
structure Protocol (σ : Type) (F : Signature) extends Terms σ F where
  waits : List (Heard σ F) → F.Request → σ → Prop

/-- The protocol of a job that owes nothing where it waits. -/
def Terms.silent {σ : Type} {F : Signature} (T : Terms σ F) : Protocol σ F :=
  { T with waits := fun _ _ _ => True }

/-- The protocol of a job that asks for nothing. -/
def Protocol.prompt {σ : Type} {F : Signature} : Protocol σ F where
  finds _ _ _ _ := True
  writes _ _ _ := True
  waits _ _ _ := False

/-- The protocol of a job that owes nothing. -/
def Protocol.free {σ : Type} {F : Signature} : Protocol σ F where
  finds _ _ _ _ := True
  writes _ _ _ := True
  waits _ _ _ := True

/-- Two protocols at once. -/
def Protocol.both {σ : Type} {F : Signature} (π ρ : Protocol σ F) : Protocol σ F where
  finds q r s t := π.finds q r s t ∧ ρ.finds q r s t
  writes heard s t := π.writes heard s t ∧ ρ.writes heard s t
  waits heard q s := π.waits heard q s ∧ ρ.waits heard q s

/-- What is heard, as a job on a part of the state finds it. -/
def Heard.part {σ τ : Type} {F : Signature} (get : τ → σ) (h : Heard τ F) : Heard σ F :=
  ⟨h.request, h.reply, get h.found⟩

/-- The protocol of a job on a part of a larger state, which leaves the rest alone. -/
def Protocol.within {σ τ : Type} {F : Signature} (get : τ → σ) (put : σ → τ → τ)
    (π : Protocol σ F) : Protocol τ F where
  finds q r s t := π.finds q r (get s) (get t)
  writes heard s t := π.writes (heard.map (·.part get)) (get s) (get t) ∧ t = put (get t) s
  waits heard q s := π.waits (heard.map (·.part get)) q (get s)

namespace Job

variable {σ τ : Type} {F : Signature} {α β : Type}

/-- The job keeps to the protocol and ends as it should, after what it has heard already. -/
def Obeys (π : Protocol σ F) (post : Post σ F α) : Job σ F α → List (Heard σ F) → σ → Prop
  | .done a, heard, s => post heard (.ok a) s
  | .crash x, heard, s => post heard (.error x) s
  | .ask .read next, heard, s => Obeys π post (next s) heard s
  | .ask (.write t) next, heard, s => π.writes heard s t ∧ Obeys π post (next ()) heard t
  | .ask (.outside q) next, heard, s => π.waits heard q s ∧
    ∀ r t, π.finds q r s t → Obeys π post (next r) (heard ++ [⟨q, r, t⟩]) t

variable {π : Protocol σ F} {heard : List (Heard σ F)} {s : σ}

/-- What is to hold after a job that another one follows: the other one keeps to the protocol. -/
def andObeys (π : Protocol σ F) (f : α → Job σ F β) (post : Post σ F β) : Post σ F α
  | heard, .ok a, s => (f a).Obeys π post heard s
  | heard, .error x, s => post heard (.error x) s

theorem obeys_bind {j : Job σ F α} {f : α → Job σ F β} {post : Post σ F β} :
    (j >>= f).Obeys π post heard s ↔ j.Obeys π (andObeys π f post) heard s := by
  induction j generalizing heard s with
  | done => exact Iff.rfl
  | crash => exact Iff.rfl
  | ask q next ih =>
    match q with
    | .read => exact ih s
    | .write t => exact and_congr_right fun _ => ih ()
    | .outside q =>
      refine and_congr_right fun _ => ?_
      exact forall_congr' fun r => forall_congr' fun t => imp_congr_right fun _ => ih r

/-- A job whose result is turned into another one comes to what it comes to itself. -/
theorem obeys_map {j : Job σ F α} {g : α → β} {post : Post σ F β} :
    (j >>= fun a => pure (g a)).Obeys π post heard s ↔
      j.Obeys π (fun heard e t => post heard (e.map g) t) heard s := by
  have same : andObeys π (fun a => pure (g a)) post = fun heard e t => post heard (e.map g) t := by
    funext heard e t
    cases e <;> rfl
  rw [obeys_bind, same]

/-- A job keeps to other protocols as well, if these follow from the first while an invariant
holds. -/
theorem obeys_mono {ρ : Protocol σ F} {j : Job σ F α} {post later : Post σ F α}
    (I : List (Heard σ F) → σ → Prop)
    (finds : ∀ heard q r s t, I heard s → π.waits heard q s → ρ.finds q r s t →
      π.finds q r s t ∧ I (heard ++ [⟨q, r, t⟩]) t)
    (writes : ∀ heard s t, I heard s → π.writes heard s t → ρ.writes heard s t ∧ I heard t)
    (waits : ∀ heard q s, I heard s → π.waits heard q s → ρ.waits heard q s)
    (weaker : ∀ heard e t, I heard t → post heard e t → later heard e t) (start : I heard s)
    (obeys : j.Obeys π post heard s) : j.Obeys ρ later heard s := by
  induction j generalizing heard s with
  | done => exact weaker _ _ _ start obeys
  | crash => exact weaker _ _ _ start obeys
  | ask q next ih =>
    match q with
    | .read => exact ih s start obeys
    | .write t =>
      obtain ⟨written, kept⟩ := writes _ s t start obeys.1
      exact ⟨written, ih () kept obeys.2⟩
    | .outside q =>
      refine ⟨waits _ q s start obeys.1, ?_⟩
      intro r t found
      obtain ⟨found, kept⟩ := finds _ q r s t start obeys.1 found
      exact ih r kept (obeys.2 r t found)

theorem obeys_imp {j : Job σ F α} {post later : Post σ F α}
    (weaker : ∀ heard e t, post heard e t → later heard e t) (obeys : j.Obeys π post heard s) :
    j.Obeys π later heard s :=
  obeys_mono (fun _ _ => True) (fun _ _ _ _ _ _ _ found => ⟨found, trivial⟩)
    (fun _ _ _ _ written => ⟨written, trivial⟩) (fun _ _ _ _ waits => waits)
    (fun heard e t _ => weaker heard e t) trivial obeys

/-- What a job has heard it has heard for good. -/
theorem obeys_grown {j : Job σ F α} {post : Post σ F α} (obeys : j.Obeys π post heard s) :
    j.Obeys π (fun later e t => heard <+: later ∧ post later e t) heard s :=
  obeys_mono (fun later _ => heard <+: later)
    (fun _ _ _ _ _ grown _ found => ⟨found, grown.trans (List.prefix_append _ _)⟩)
    (fun _ _ _ grown written => ⟨written, grown⟩) (fun _ _ _ _ waits => waits)
    (fun _ _ _ grown ended => ⟨grown, ended⟩) List.prefix_rfl obeys

/-- A job that relies on nothing ends as it should whatever is asked of it. -/
theorem obeys_free {j : Job σ F α} {post : Post σ F α} (finds : ∀ q r s t, π.finds q r s t)
    (obeys : j.Obeys π post heard s) : j.Obeys .free post heard s :=
  obeys_mono (fun _ _ => True) (fun _ q r s t _ _ _ => ⟨finds q r s t, trivial⟩)
    (fun _ _ _ _ _ => ⟨trivial, trivial⟩) (fun _ _ _ _ _ => trivial) (fun _ _ _ _ ends => ends)
    trivial obeys

/-- Every job keeps to the protocol on which nothing is owed. -/
theorem obeys_trivial (j : Job σ F α) (heard : List (Heard σ F)) (s : σ) :
    j.Obeys .free (fun _ _ _ => True) heard s := by
  induction j generalizing heard s with
  | done => trivial
  | crash => trivial
  | ask q next ih =>
    match q with
    | .read => exact ih s heard s
    | .write t => exact ⟨trivial, ih () heard t⟩
    | .outside q => exact ⟨trivial, fun r t _ => ih r _ t⟩

/-- A job that comes to its end without the outside ends as it should if that holds there and it may
write what it writes. -/
theorem obeys_of_done {j : Job σ F α} {post : Post σ F α} {a : α} {t : σ}
    (writes : ∀ heard s t, π.writes heard s t) (done : advance j s = (.done a, t))
    (ends : post heard (.ok a) t) : j.Obeys π post heard s := by
  induction j generalizing s with
  | done =>
    cases done
    exact ends
  | crash => cases done
  | ask q next ih =>
    match q with
    | .read => exact ih s done
    | .write u => exact ⟨writes heard s u, ih () done⟩
    | .outside q => cases done

theorem obeys_run_get_bind {ε : Type} {f : σ → ExceptT ε (Job σ F) α}
    {post : Post σ F (Except ε α)} :
    (get >>= f : ExceptT ε (Job σ F) α).run.Obeys π post heard s ↔
      (f s).run.Obeys π post heard s := Iff.rfl

theorem obeys_both {ρ : Protocol σ F} {j : Job σ F α} {post later : Post σ F α}
    (first : j.Obeys π post heard s) (second : j.Obeys ρ later heard s) :
    j.Obeys (π.both ρ) (fun heard e t => post heard e t ∧ later heard e t) heard s := by
  induction j generalizing heard s with
  | done => exact ⟨first, second⟩
  | crash => exact ⟨first, second⟩
  | ask q next ih =>
    match q with
    | .read => exact ih s first second
    | .write t => exact ⟨⟨first.1, second.1⟩, ih () first.2 second.2⟩
    | .outside q =>
      refine ⟨⟨first.1, second.1⟩, fun r t found => ?_⟩
      exact ih r (first.2 r t found.1) (second.2 r t found.2)

/-- A job that keeps to a protocol on a part of the state does so on the whole. -/
theorem obeys_within {get : τ → σ} {put : σ → τ → τ} (get_put : ∀ s t, get (put s t) = s)
    {j : Job σ F α} {post : Post σ F α} {heard : List (Heard τ F)} {t : τ}
    (obeys : j.Obeys π post (heard.map (·.part get)) (get t)) :
    (within get put (fun q => call q) j).Obeys (π.within get put)
      (fun heard e t => post (heard.map (·.part get)) e (get t)) heard t := by
  induction j generalizing heard t with
  | done => exact obeys
  | crash => exact obeys
  | ask q next ih =>
    match q with
    | .read => exact ih (get t) obeys
    | .write s =>
      obtain ⟨written, rest⟩ := obeys
      rw [← get_put s t] at written rest
      constructor
      · exact ⟨written, by rw [get_put]⟩
      · exact ih () rest
    | .outside q =>
      refine ⟨obeys.1, fun r u found => ?_⟩
      apply ih
      rw [List.map_append]
      exact obeys.2 r (get u) found

/-- What is to hold before the last act of a job, which comes however the job ends. -/
def beforeClosing (π : Protocol σ F) (last : Job σ F Unit) (post : Post σ F α) : Post σ F α
  | heard, e, s =>
    last.Obeys π (fun heard closed t => post heard (closed.bind fun _ => e) t) heard s

theorem obeys_closing {j : Job σ F α} {last : Job σ F Unit} {post : Post σ F α} :
    Obeys π post (j.closing last) heard s ↔ j.Obeys π (beforeClosing π last post) heard s := by
  induction j generalizing heard s with
  | done a =>
    have same : andObeys π (fun _ : Unit => .done a) post =
        fun heard closed t => post heard (closed.bind fun _ => .ok a) t := by
      funext heard closed t
      cases closed <;> rfl
    exact obeys_bind.trans (same ▸ Iff.rfl)
  | crash x =>
    have same : andObeys π (fun _ : Unit => .crash x) post =
        fun heard closed t => post heard (closed.bind fun _ => .error x) t := by
      funext heard closed t
      cases closed <;> rfl
    exact obeys_bind.trans (same ▸ Iff.rfl)
  | ask q next ih =>
    match q with
    | .read => exact ih s
    | .write t => exact and_congr_right fun _ => ih ()
    | .outside q =>
      refine and_congr_right fun _ => ?_
      exact forall_congr' fun r => forall_congr' fun t => imp_congr_right fun _ => ih r

end Job

end Onboarding
