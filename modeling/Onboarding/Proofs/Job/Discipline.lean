import Onboarding.Proofs.Job.Protocol

/-! Disciplines of asking. A discipline says of each request, with what is to follow it, whether a
program may ask it so. It looks at the requests alone, so what is put together from programs that
abide by it abides by it as well. -/
namespace Onboarding

structure Discipline (S : Signature) where
  admits : ∀ {α : Type} (q : S.Request), (S.Reply q → Prog S α) → Prop
  /-- What is done with the rest of the program does not matter. -/
  goesOn : ∀ {α β : Type} {q : S.Request} {next : S.Reply q → Prog S α}
    (g : Prog S α → Prog S β), admits q next → admits q fun r => g (next r)

namespace Discipline

variable {S : Signature}

/-- Only certain requests are asked. -/
def only (allowed : S.Request → Prop) : Discipline S where
  admits q _ := allowed q
  goesOn _ admitted := admitted

/-- Whatever the replies to certain requests are, the program goes on in the same way. -/
def heedless (deaf : S.Request → Prop) : Discipline S where
  admits q next := deaf q → ∀ r r', next r = next r'
  goesOn g same silent r r' := congrArg g (same silent r r')

end Discipline

namespace Prog

variable {S T : Signature} {α β : Type} {D : Discipline S} {E : Discipline T}

/-- Every request of the program is asked as the discipline admits. -/
def Abides (D : Discipline S) : Prog S α → Prop
  | done _ => True
  | crash _ => True
  | ask q next => D.admits q next ∧ ∀ r, Abides D (next r)

theorem abides_bind {p : Prog S α} {f : α → Prog S β} (first : p.Abides D)
    (others : ∀ a, (f a).Abides D) : (p >>= f).Abides D := by
  induction p with
  | done a => exact others a
  | crash => trivial
  | ask q next ih =>
    constructor
    · exact D.goesOn (· >>= f) first.1
    · intro r
      exact ih r (first.2 r)

theorem abides_closing {p : Prog S α} {last : Prog S Unit} (first : p.Abides D)
    (closes : last.Abides D) : (p.closing last).Abides D := by
  induction p with
  | done => exact abides_bind closes fun _ => trivial
  | crash => exact abides_bind closes fun _ => trivial
  | ask q next ih =>
    constructor
    · exact D.goesOn (·.closing last) first.1
    · intro r
      exact ih r (first.2 r)

/-- What is made of a program abides, if what is made of each of its requests does. -/
theorem abides_interpret {h : ∀ q : S.Request, Prog T (S.Reply q)}
    (answers : ∀ (q : S.Request) (next : S.Reply q → Prog S α), D.admits q next →
      (∀ r, ((next r).interpret h).Abides E) → (h q >>= fun r => (next r).interpret h).Abides E)
    {p : Prog S α} (abides : p.Abides D) : (p.interpret h).Abides E := by
  induction p with
  | done => trivial
  | crash => trivial
  | ask q next ih => exact answers q next abides.1 fun r => ih r (abides.2 r)

/-- A program abides where everything may be asked. -/
theorem abides_only {allowed : S.Request → Prop} (all : ∀ q, allowed q) (p : Prog S α) :
    p.Abides (.only allowed) := by
  induction p with
  | done => trivial
  | crash => trivial
  | ask q next ih => exact ⟨all q, ih⟩

/-- A program that asks nothing of a kind does not heed it either. -/
theorem heedless_of_only {allowed deaf : S.Request → Prop} (apart : ∀ q, allowed q → ¬ deaf q)
    {p : Prog S α} (abides : p.Abides (.only allowed)) : p.Abides (.heedless deaf) := by
  induction p with
  | done => trivial
  | crash => trivial
  | ask q next ih =>
    constructor
    · intro silent
      exact absurd silent (apart q abides.1)
    · intro r
      exact ih r (abides.2 r)

end Prog

/-- Whatever is asked of the outside has `P`. -/
def Demand.Sends {σ : Type} {F : Signature} (P : F.Request → Prop) : Demand σ F → Prop
  | outside q => P q
  | _ => True

/-- Something is asked of the outside, and it has `P`. -/
def Demand.Among {σ : Type} {F : Signature} (P : F.Request → Prop) : Demand σ F → Prop
  | outside q => P q
  | _ => False

namespace Discipline

variable {σ : Type} {F : Signature}

/-- The discipline leaves reading and writing free. -/
structure Free (D : Discipline (.stateful σ F)) : Prop where
  read : ∀ {α : Type} (next : σ → Job σ F α), D.admits .read next
  write : ∀ {α : Type} (s : σ) (next : Unit → Job σ F α), D.admits (.write s) next

theorem free_only (P : F.Request → Prop) : Free (σ := σ) (.only (Demand.Sends P)) :=
  ⟨fun _ => trivial, fun _ _ => trivial⟩

theorem free_heedless (P : F.Request → Prop) : Free (σ := σ) (.heedless (Demand.Among P)) :=
  ⟨fun _ silent => silent.elim, fun _ _ silent => silent.elim⟩

end Discipline

namespace Job

variable {σ τ ε : Type} {F G : Signature} {α β : Type} {D : Discipline (.stateful σ F)}

theorem abides_pure (a : α) : (pure a : Job σ F α).Abides D := trivial

theorem abides_get (free : D.Free) : (get : Job σ F σ).Abides D := ⟨free.read _, fun _ => trivial⟩

theorem abides_modify (free : D.Free) (g : σ → σ) : (modify g : Job σ F PUnit).Abides D :=
  ⟨free.read _, fun _ => ⟨free.write _ _, fun _ => trivial⟩⟩

theorem abides_modifyGet (free : D.Free) (g : σ → α × σ) :
    (modifyGet g : Job σ F α).Abides D :=
  ⟨free.read _, fun _ => ⟨free.write _ _, fun _ => trivial⟩⟩

/-- A job on a part of the state asks what is made of its requests. -/
theorem abides_within {E : Discipline (.stateful τ G)} (free : E.Free) {get : τ → σ}
    {put : σ → τ → τ} {wider : ∀ q : F.Request, Job τ G (F.Reply q)}
    (asks : ∀ q, (wider q).Abides E) (j : Job σ F α) : (within get put wider j).Abides E := by
  refine Prog.abides_interpret (fun q next _ goesOn => ?_) (Prog.abides_only (fun _ => trivial) j)
  match q with
  | .read => exact ⟨free.read _, fun t => goesOn (get t)⟩
  | .write s => exact ⟨free.read _, fun t => ⟨free.write _ _, goesOn⟩⟩
  | .outside q => exact Prog.abides_bind (asks q) goesOn

/-! The same for jobs that may fail. -/

theorem abides_run_pure (a : α) : (pure a : ExceptT ε (Job σ F) α).run.Abides D := trivial

theorem abides_run_throw (e : ε) : (throw e : ExceptT ε (Job σ F) α).run.Abides D := trivial

theorem abides_run_bind {a : ExceptT ε (Job σ F) α} {f : α → ExceptT ε (Job σ F) β}
    (first : a.run.Abides D) (others : ∀ x, (f x).run.Abides D) : (a >>= f).run.Abides D := by
  rw [ExceptT.run_bind]
  refine Prog.abides_bind first fun x => ?_
  cases x with
  | ok x => exact others x
  | error e => exact abides_pure _

theorem abides_run_lift {j : Job σ F α} (abides : j.Abides D) :
    (ExceptT.lift j : ExceptT ε (Job σ F) α).run.Abides D :=
  Prog.abides_bind abides fun _ => abides_pure _

theorem abides_run_get (free : D.Free) : (get : ExceptT ε (Job σ F) σ).run.Abides D :=
  abides_run_lift (abides_get free)

theorem abides_run_modify (free : D.Free) (g : σ → σ) :
    (modify g : ExceptT ε (Job σ F) PUnit).run.Abides D := abides_run_lift (abides_modify free g)

theorem abides_run_modifyGet (free : D.Free) (g : σ → α × σ) :
    (modifyGet g : ExceptT ε (Job σ F) α).run.Abides D := abides_run_lift (abides_modifyGet free g)

/-! What a job asks, and the protocols that it keeps to. -/

/-- A job that asks nothing else keeps to a protocol that allows this wherever an invariant of what
has been heard holds. -/
theorem obeys_of_abides {P : F.Request → Prop} {π : Protocol σ F} (I : List (Heard σ F) → Prop)
    (waits : ∀ heard q s, I heard → P q → π.waits heard q s)
    (hears : ∀ heard q r s t, I heard → P q → π.finds q r s t → I (heard ++ [⟨q, r, t⟩]))
    (writes : ∀ heard s t, I heard → π.writes heard s t) {j : Job σ F α}
    (abides : j.Abides (.only (Demand.Sends P))) {heard : List (Heard σ F)} {s : σ}
    (start : I heard) : j.Obeys π (fun heard _ _ => I heard) heard s := by
  induction j generalizing heard s with
  | done => exact start
  | crash => exact start
  | ask q next ih =>
    match q with
    | .read => exact ih s (abides.2 s) start
    | .write t => exact ⟨writes _ _ _ start, ih () (abides.2 ()) start⟩
    | .outside q =>
      constructor
      · exact waits _ _ _ start abides.1
      · intro r t found
        exact ih r (abides.2 r) (hears _ _ _ _ _ start abides.1 found)

end Job

end Onboarding
