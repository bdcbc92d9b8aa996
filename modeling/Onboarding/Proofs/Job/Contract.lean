import Onboarding.Proofs.Job.Chronicle
import Onboarding.Proofs.Job.Ensures

/-! Contracts of jobs side by side. What each of them ensures on terms that all of them keep, the
record shows in whatever order the replies come in. -/
namespace Onboarding

open Job

variable {κ σ : Type} {F : Signature} {α : Type}

/-- What the outside may say, what all writes keep, how any state may differ from an earlier one,
and what each job owes. -/
structure Contract (κ σ : Type) (F : Signature) (α : Type) where
  hears : (q : F.Request) → F.Reply q → Prop := fun _ _ => True
  holds : σ → Prop
  later : σ → σ → Prop
  writes : Party κ → List (Heard σ F) → σ → σ → Prop
  ends : Party κ → Post σ F α
  refl : ∀ s, later s s
  trans : ∀ {s t u}, later s t → later t u → later s u

namespace Contract

/-- What a job may rely on while it waits, and what it owes with every write. -/
def terms (K : Contract κ σ F α) (p : Party κ) : Terms σ F where
  finds q r s t := K.hears q r ∧ K.holds t ∧ K.later s t
  writes heard s t := (K.holds t ∧ K.later s t) ∧ K.writes p heard s t

/-- The job does what it owes. -/
def Meets (K : Contract κ σ F α) (p : Party κ) (j : Job σ F α) (heard : List (Heard σ F)) (s : σ) :
    Prop := j.Ensures (K.terms p) (K.ends p) heard s

/-- Whatever state it finds, a job that waits does what it owes. -/
def Awaits (K : Contract κ σ F α) (w : Pending κ σ F α) : Prop :=
  ∀ answer t, K.hears w.request answer → K.holds t → K.later w.since t →
    K.Meets w.party (w.next answer) (w.heard ++ [⟨w.request, answer, t⟩]) t

end Contract

namespace Chronicle

/-- Everything on the page is as the contract has it, and so it will be when the jobs that wait go
on. -/
structure Honours (c : Chronicle κ σ F α) (K : Contract κ σ F α) : Prop where
  moments : ∀ s ∈ c.seen, K.holds s
  deeds : ∀ d ∈ c.deeds, K.writes d.party d.heard d.before d.after
  ended : ∀ e ∈ c.ended, K.ends e.party e.heard e.ending e.state
  since : ∀ w ∈ c.pending, K.later w.since c.state
  pending : ∀ w ∈ c.pending, K.Awaits w

variable {K : Contract κ σ F α} {c : Chronicle κ σ F α}

theorem Honours.state (honours : c.Honours K) : K.holds c.state :=
  honours.moments c.state (List.mem_cons_self ..)

theorem honours_start {s : σ} (start : K.holds s) :
    Honours ({ state := s } : Chronicle κ σ F α) K where
  moments := List.forall_mem_singleton.mpr start
  deeds := by simp
  ended := by simp
  since := by simp
  pending := by simp

theorem Honours.put (honours : c.Honours K) {s : σ} (kept : K.holds s)
    (later : K.later c.state s) : (c.put s).Honours K where
  moments := List.forall_mem_cons.mpr ⟨kept, honours.moments⟩
  deeds := honours.deeds
  ended := honours.ended
  since w member := K.trans (honours.since w member) later
  pending := honours.pending

theorem Honours.follow {p : Party κ} {heard : List (Heard σ F)} {j : Job σ F α}
    (honours : c.Honours K) (meets : K.Meets p j heard c.state) :
    (follow p heard j c).Honours K := by
  refine follow_induction (I := (Honours · K)) (P := (Honours · K)) (ensures_iff_obeys.mp meets)
    honours (fun v s honours written => ?_) (fun v q next honours _ goes => ?_)
    fun v e honours ends => ?_
  · obtain ⟨⟨kept, later⟩, owed⟩ := written
    exact { honours.put kept later with
      deeds := List.forall_mem_cons.mpr ⟨owed, honours.deeds⟩ }
  · refine { honours with
      since := forall_concat honours.since (K.refl v.state)
      pending := forall_concat honours.pending ?_ }
    exact fun answer t hears kept later => ensures_iff_obeys.mpr (goes answer t ⟨hears, kept, later⟩)
  · exact { honours with ended := List.forall_mem_cons.mpr ⟨ends, honours.ended⟩ }

theorem Honours.start (honours : c.Honours K) {agent : κ} {j : Job σ F α}
    (meets : K.Meets ⟨c.begun, agent⟩ j [] c.state) : (c.start agent j).Honours K :=
  Honours.follow { honours with } meets

theorem Honours.reply (honours : c.Honours K) (place : Nat)
    {say : ∀ q : F.Request, Option (F.Reply q)} (hears : ∀ q r, say q = some r → K.hears q r) :
    (c.reply place say).Honours K := by
  rcases c.reply_cases place say with same | ⟨job, answer, found, said, same⟩ <;> rw [same]
  · exact honours
  have others : Honours { c with pending := c.pending.eraseIdx place } K :=
    { honours with
      since := fun w member => honours.since w (List.mem_of_mem_eraseIdx member)
      pending := fun w member => honours.pending w (List.mem_of_mem_eraseIdx member) }
  have member := List.mem_of_getElem? found
  exact others.follow (honours.pending job member answer c.state (hears _ _ said) honours.state
    (honours.since job member))

/-! However far a job comes, its state is a later one. -/

theorem later_follow {p : Party κ} {heard : List (Heard σ F)} {j : Job σ F α}
    (meets : K.Meets p j heard c.state) : K.later c.state (follow p heard j c).state :=
  follow_induction (I := fun v => K.later c.state v.state) (P := fun v => K.later c.state v.state)
    (ensures_iff_obeys.mp meets) (K.refl _) (fun _ _ later written => K.trans later written.1.2)
    (fun _ _ _ later _ _ => later) fun _ _ later _ => later

theorem Honours.later_reply (honours : c.Honours K) (place : Nat)
    {say : ∀ q : F.Request, Option (F.Reply q)} (hears : ∀ q r, say q = some r → K.hears q r) :
    K.later c.state (c.reply place say).state := by
  rcases c.reply_cases place say with same | ⟨job, answer, found, said, same⟩ <;> rw [same]
  · exact K.refl _
  have member := List.mem_of_getElem? found
  exact later_follow (c := { c with pending := c.pending.eraseIdx place })
    (honours.pending job member answer c.state (hears _ _ said) honours.state
      (honours.since job member))

/-- On a new page other terms may be kept, if the jobs that wait keep them. -/
theorem honours_turn {L : Contract κ σ F α} (kept : L.holds c.state)
    (since : ∀ w ∈ c.pending, L.later w.since c.state) (pending : ∀ w ∈ c.pending, L.Awaits w) :
    c.turn.Honours L where
  moments := List.forall_mem_singleton.mpr kept
  deeds := by simp [Chronicle.turn]
  ended := by simp [Chronicle.turn]
  since := since
  pending := pending

end Chronicle

end Onboarding
