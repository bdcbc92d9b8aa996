/-! Programs that ask: a computation either ends, or crashes, or asks something of its
surroundings and goes on with the reply. Nothing is assumed of the surroundings, so a statement
about a program holds whatever they answer. -/
namespace Onboarding

/-- What may be asked, and the kind of reply each request is given. -/
structure Signature where
  Request : Type
  Reply : Request → Type

/-- The signature of requests of either of two kinds. -/
def Signature.sum (F G : Signature) : Signature where
  Request := F.Request ⊕ G.Request
  Reply := fun
    | .inl q => F.Reply q
    | .inr q => G.Reply q

/-- What a crash carries: its text, if it is a text. -/
structure Crash where
  text : Option String
  deriving DecidableEq, Repr

inductive Prog (S : Signature) (α : Type) where
  | done (a : α)
  | crash (x : Crash)
  | ask (q : S.Request) (next : S.Reply q → Prog S α)

namespace Prog

variable {S T : Signature} {α β : Type}

/-- Goes on with `f` where the program ends. A crash is final. -/
protected def bind : Prog S α → (α → Prog S β) → Prog S β
  | done a, f => f a
  | crash x, _ => crash x
  | ask q next, f => ask q fun r => (next r).bind f

instance : Monad (Prog S) where
  pure := done
  bind := Prog.bind

@[simp] theorem pure_eq (a : α) : (pure a : Prog S α) = done a := rfl

@[simp] theorem done_bind (a : α) (f : α → Prog S β) : done a >>= f = f a := rfl

@[simp] theorem crash_bind (x : Crash) (f : α → Prog S β) : crash x >>= f = crash x := rfl

@[simp] theorem ask_bind (q : S.Request) (next : S.Reply q → Prog S α) (f : α → Prog S β) :
    ask q next >>= f = ask q fun r => next r >>= f := rfl

theorem id_map (p : Prog S α) : id <$> p = p := by
  induction p with
  | done => rfl
  | crash => rfl
  | ask q next ih => exact congrArg (ask q) (funext ih)

theorem bind_assoc {γ : Type} (p : Prog S α) (f : α → Prog S β) (g : β → Prog S γ) :
    p >>= f >>= g = p >>= fun a => f a >>= g := by
  induction p with
  | done => rfl
  | crash => rfl
  | ask q next ih => exact congrArg (ask q) (funext ih)

instance : LawfulMonad (Prog S) := LawfulMonad.mk' (Prog S) id_map (fun _ _ => rfl) bind_assoc

/-- Asks one thing. -/
def request (q : S.Request) : Prog S (S.Reply q) := ask q done

/-- Answers every request of one signature by a program over another. -/
def interpret (h : ∀ q : S.Request, Prog T (S.Reply q)) : Prog S α → Prog T α
  | done a => done a
  | crash x => crash x
  | ask q next => h q >>= fun r => (next r).interpret h

@[simp] theorem interpret_done (h : ∀ q : S.Request, Prog T (S.Reply q)) (a : α) :
    (done a).interpret h = done a := rfl

@[simp] theorem interpret_crash (h : ∀ q : S.Request, Prog T (S.Reply q)) (x : Crash) :
    (crash x : Prog S α).interpret h = crash x := rfl

@[simp] theorem interpret_ask (h : ∀ q : S.Request, Prog T (S.Reply q)) (q : S.Request)
    (next : S.Reply q → Prog S α) :
    (ask q next).interpret h = h q >>= fun r => (next r).interpret h := rfl

theorem interpret_bind (h : ∀ q : S.Request, Prog T (S.Reply q)) (p : Prog S α)
    (f : α → Prog S β) : (p >>= f).interpret h = p.interpret h >>= fun a => (f a).interpret h := by
  induction p with
  | done => rfl
  | crash => rfl
  | ask q next ih => simp [ih]

/-- Runs `last` when the program has ended or crashed, and then ends or crashes as it did. -/
def closing (p : Prog S α) (last : Prog S Unit) : Prog S α :=
  match p with
  | done a => last >>= fun _ => done a
  | crash x => last >>= fun _ => crash x
  | ask q next => ask q fun r => (next r).closing last

end Prog

end Onboarding
