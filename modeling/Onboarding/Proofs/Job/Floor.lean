import Mathlib.Data.List.Chain
import Onboarding.Proofs.Job.Keeps

/-! Jobs side by side on one state. A job holds the floor until it ends or waits; others may act
before it goes on. What every write of every job keeps is kept at every moment, in whatever order
the replies come in. -/
namespace Onboarding

/-- What every event hands on, of where it leads to and of the events that are to come, is so where
a run of events ends. -/
theorem foldl_induction {α ε : Type} {happen : α → ε → α} {motive : α → List ε → Prop} {a : α}
    {events : List ε} (start : motive a events)
    (step : ∀ a event later, motive a (event :: later) → motive (happen a event) later) :
    motive (events.foldl happen a) [] := by
  induction events generalizing a with
  | nil => exact start
  | cons event later ih => exact ih (step a event later start)

namespace Job

variable {σ : Type} {F : Signature} {α : Type}

/-- The states that a job leaves behind until it ends or waits, the latest first, before those
that were there already. -/
def trail : Job σ F α → σ → List σ → List σ
  | .done _, _, past => past
  | .crash _, _, past => past
  | .ask .read next, s, past => trail (next s) s past
  | .ask (.write t) next, s, past => trail (next ()) t (s :: past)
  | .ask (.outside _) _, _, past => past

end Job

structure Suspended (σ : Type) (F : Signature) where
  request : F.Request
  next : F.Reply request → Job σ F Unit

/-- A state with the moments before it, the latest first, and the jobs that wait. -/
structure Floor (σ : Type) (F : Signature) where
  state : σ
  past : List σ := []
  waiting : List (Suspended σ F) := []

namespace Floor

variable {σ : Type} {F : Signature} {α : Type}

def seen (f : Floor σ F) : List σ := f.state :: f.past

def put (f : Floor σ F) (s : σ) : Floor σ F := { f with state := s, past := f.seen }

/-- Runs a job until it ends or waits. -/
def run (f : Floor σ F) (j : Job σ F Unit) : Floor σ F where
  state := (j.advance f.state).2
  past := j.trail f.state f.past
  waiting := match (j.advance f.state).1 with
    | .waiting request next => f.waiting ++ [⟨request, next⟩]
    | _ => f.waiting

/-- Replies to the job in a given place of those that wait, if there is a reply to its request. -/
def reply (f : Floor σ F) (place : Nat) (say : ∀ q : F.Request, Option (F.Reply q)) : Floor σ F :=
  match f.waiting[place]? with
  | none => f
  | some job =>
    match say job.request with
    | none => f
    | some answer =>
      { f with waiting := f.waiting.eraseIdx place }.run (job.next answer)

/-- Every moment has `P` and follows the one before by `R`, and so it will be when the jobs that
wait go on. -/
structure Keeps (P : σ → Prop) (R : σ → σ → Prop) (f : Floor σ F) : Prop where
  moments : ∀ s ∈ f.seen, P s
  steps : f.seen.IsChain fun later earlier => R earlier later
  waiting : ∀ job ∈ f.waiting, ∀ answer s, P s → (job.next answer).Keeps P R s

variable {P : σ → Prop} {R : σ → σ → Prop}

theorem Keeps.state {f : Floor σ F} (keeps : f.Keeps P R) : P f.state :=
  keeps.moments f.state (by simp [seen])

theorem keeps_start {s : σ} (start : P s) : Keeps P R ({ state := s } : Floor σ F) :=
  ⟨by simpa [seen] using start, by simp [seen], by simp⟩

theorem Keeps.put {f : Floor σ F} (keeps : f.Keeps P R) {s : σ} (kept : P s)
    (step : R f.state s) : (f.put s).Keeps P R := by
  refine ⟨?_, ?_, keeps.waiting⟩
  · intro t member
    rcases List.mem_cons.mp member with rfl | earlier
    · exact kept
    · exact keeps.moments t earlier
  · exact .cons_cons step keeps.steps

end Floor

namespace Job

variable {σ : Type} {F : Signature} {α : Type} {P : σ → Prop} {R : σ → σ → Prop}

theorem trail_keeps {j : Job σ F α} {s : σ} {past : List σ} (keeps : j.Keeps P R s)
    (moments : ∀ t ∈ s :: past, P t)
    (steps : (s :: past).IsChain fun later earlier => R earlier later) :
    (∀ t ∈ (j.advance s).2 :: j.trail s past, P t) ∧
      ((j.advance s).2 :: j.trail s past).IsChain fun later earlier => R earlier later := by
  induction j generalizing s past with
  | done => exact ⟨moments, steps⟩
  | crash => exact ⟨moments, steps⟩
  | ask q next ih =>
    match q with
    | .read => exact ih s keeps moments steps
    | .write t =>
      exact ih () keeps.2 (List.forall_mem_cons.mpr ⟨keeps.1.1, moments⟩)
        (.cons_cons keeps.1.2 steps)
    | .outside q => exact ⟨moments, steps⟩

theorem seen_trail (j : Job σ F α) (s : σ) (past : List σ) :
    s :: past <:+ (j.advance s).2 :: j.trail s past := by
  induction j generalizing s past with
  | done => exact List.suffix_refl _
  | crash => exact List.suffix_refl _
  | ask q next ih =>
    match q with
    | .read => exact ih s s past
    | .write t => exact (List.suffix_cons t _).trans (ih () t (s :: past))
    | .outside q => exact List.suffix_refl _

/-- A job that waits keeps what it kept so far. -/
theorem advance_keeps {j : Job σ F α} {s t : σ} {q : F.Request} {next : F.Reply q → Job σ F α}
    (keeps : j.Keeps P R s) (waits : j.advance s = (.waiting q next, t)) :
    ∀ answer t, P t → (next answer).Keeps P R t := by
  induction j generalizing s with
  | done => cases waits
  | crash => cases waits
  | ask r rest ih =>
    match r with
    | .read => exact ih s keeps waits
    | .write t => exact ih () keeps.2 waits
    | .outside r =>
      cases waits
      exact keeps

end Job

namespace Floor

variable {σ : Type} {F : Signature} {P : σ → Prop} {R : σ → σ → Prop}

/-! No moment is forgotten. -/

theorem seen_put (f : Floor σ F) (s : σ) : f.seen <:+ (f.put s).seen := List.suffix_cons s _

theorem seen_run (f : Floor σ F) (j : Job σ F Unit) : f.seen <:+ (f.run j).seen :=
  Job.seen_trail j f.state f.past

theorem seen_reply (f : Floor σ F) (place : Nat) (say : ∀ q : F.Request, Option (F.Reply q)) :
    f.seen <:+ (f.reply place say).seen := by
  unfold Floor.reply
  split
  · exact List.suffix_refl _
  split
  · exact List.suffix_refl _
  · exact seen_run { f with waiting := f.waiting.eraseIdx place } _

theorem Keeps.run {f : Floor σ F} (keeps : f.Keeps P R) {j : Job σ F Unit}
    (job : j.Keeps P R f.state) : (f.run j).Keeps P R := by
  obtain ⟨moments, steps⟩ := Job.trail_keeps job keeps.moments keeps.steps
  refine ⟨moments, steps, ?_⟩
  unfold Floor.run
  split
  · rename_i q next waits
    intro w member
    rcases List.mem_append.mp member with before | new
    · exact keeps.waiting w before
    · cases List.mem_singleton.mp new
      exact Job.advance_keeps job (Prod.ext waits rfl)
  · exact keeps.waiting

theorem Keeps.reply {f : Floor σ F} (keeps : f.Keeps P R) (place : Nat)
    (say : ∀ q : F.Request, Option (F.Reply q)) : (f.reply place say).Keeps P R := by
  unfold Floor.reply
  split
  · exact keeps
  split
  · exact keeps
  · rename_i job found _ answer _
    have others : Keeps P R { f with waiting := f.waiting.eraseIdx place } :=
      ⟨keeps.moments, keeps.steps, fun w member =>
        keeps.waiting w (List.mem_of_mem_eraseIdx member)⟩
    exact others.run (keeps.waiting job (List.mem_of_getElem? found) answer _ keeps.state)

/-- What goes on from one moment to the next under a condition goes on as long as the condition
holds. -/
theorem Keeps.lasting {f : Floor σ F} {Q A : σ → Prop} {first : σ} {past : List σ}
    (keeps : f.Keeps P fun s t => Q s → A t → Q t) (begins : [first] <:+ f.seen) (start : Q first)
    (before : past <:+ f.seen) (all : ∀ t ∈ past, A t) : ∀ t ∈ past, Q t := by
  induction past with
  | nil => exact fun t member => absurd member List.not_mem_nil
  | cons now past ih =>
    have earlier := ih ((List.suffix_cons now past).trans before) fun t member =>
      all t (List.mem_cons_of_mem now member)
    refine List.forall_mem_cons.mpr ⟨?_, earlier⟩
    cases past with
    | nil =>
      have same : [first] <:+ [now] := List.suffix_of_suffix_length_le begins before (by simp)
      cases same.eq_of_length rfl
      exact start
    | cons last past =>
      have step := (List.isChain_cons_cons.mp (keeps.steps.suffix before)).1
      exact step (earlier last (by simp)) (all now (by simp))

end Floor

end Onboarding
