import Onboarding.Prog

/-! Programs with a state of their own. Reading and writing the state takes no time; only where a
job asks something of the outside may other jobs come between. -/
namespace Onboarding

inductive Demand (σ : Type) (F : Signature) where
  | read
  | write (s : σ)
  | outside (q : F.Request)

/-- Reading is answered by the state, writing by nothing. -/
@[reducible] def Demand.Reply {σ : Type} {F : Signature} : Demand σ F → Type
  | read => σ
  | write _ => Unit
  | outside q => F.Reply q

abbrev Signature.stateful (σ : Type) (F : Signature) : Signature := ⟨Demand σ F, Demand.Reply⟩

abbrev Job (σ : Type) (F : Signature) := Prog (Signature.stateful σ F)

/-- How far a job comes without the outside: to its end, or to what it asks next. -/
inductive Stage (σ : Type) (F : Signature) (α : Type) where
  | done (a : α)
  | crashed (x : Crash)
  | waiting (q : F.Request) (next : F.Reply q → Job σ F α)

namespace Job

variable {σ τ : Type} {F G : Signature} {α β : Type}

instance : MonadStateOf σ (Job σ F) where
  get := .ask .read .done
  set s := .ask (.write s) .done
  modifyGet f := .ask .read fun s => .ask (.write (f s).2) fun _ => .done (f s).1

/-- Asks the outside. -/
def call (q : F.Request) : Job σ F (F.Reply q) := .ask (.outside q) .done

/-- Runs a job on a state until it ends or waits. -/
def advance : Job σ F α → σ → Stage σ F α × σ
  | .done a, s => (.done a, s)
  | .crash x, s => (.crashed x, s)
  | .ask .read next, s => advance (next s) s
  | .ask (.write s) next, _ => advance (next ()) s
  | .ask (.outside q) next, s => (.waiting q next, s)

@[simp] theorem advance_pure (a : α) (s : σ) :
    advance (pure a : Job σ F α) s = (.done a, s) := rfl

@[simp] theorem advance_get_bind (f : σ → Job σ F α) (s : σ) :
    advance (get >>= f) s = advance (f s) s := rfl

@[simp] theorem advance_set_bind (t : σ) (f : PUnit → Job σ F α) (s : σ) :
    advance (set t >>= f) s = advance (f ⟨⟩) t := rfl

@[simp] theorem advance_modify_bind (g : σ → σ) (f : PUnit → Job σ F α) (s : σ) :
    advance (modify g >>= f) s = advance (f ⟨⟩) (g s) := rfl

@[simp] theorem advance_modifyGet_bind (g : σ → β × σ) (f : β → Job σ F α) (s : σ) :
    advance (modifyGet g >>= f) s = advance (f (g s).1) (g s).2 := rfl

@[simp] theorem advance_call_bind (q : F.Request) (f : F.Reply q → Job σ F α) (s : σ) :
    advance (call q >>= f) s = (.waiting q f, s) := rfl

/-- What follows a job follows it from where it ends, and waits with it where it waits. -/
theorem advance_bind (j : Job σ F α) (f : α → Job σ F β) (s : σ) :
    advance (j >>= f) s = match advance j s with
      | (.done a, t) => advance (f a) t
      | (.crashed x, t) => (.crashed x, t)
      | (.waiting q next, t) => (.waiting q fun r => next r >>= f, t) := by
  induction j generalizing s with
  | done => rfl
  | crash => rfl
  | ask q next ih =>
    match q with
    | .read => exact ih s s
    | .write t => exact ih () t
    | .outside q => rfl

/-- A demand on a part of a larger state, made of the whole. -/
def widen (get : τ → σ) (put : σ → τ → τ) (wider : ∀ q : F.Request, Job τ G (F.Reply q)) :
    ∀ q : Demand σ F, Job τ G (Demand.Reply q)
  | .read => .ask .read fun t => .done (get t)
  | .write s => .ask .read fun t => .ask (.write (put s t)) .done
  | .outside q => wider q

/-- A job on a part of a larger state, asking the outside through a wider signature. -/
def within (get : τ → σ) (put : σ → τ → τ) (wider : ∀ q : F.Request, Job τ G (F.Reply q))
    (j : Job σ F α) : Job τ G α :=
  Prog.interpret (S := .stateful σ F) (widen get put wider) j

end Job

end Onboarding
