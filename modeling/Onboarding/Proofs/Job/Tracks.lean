import Onboarding.Proofs.Job.Chronicle

/-! One job on a chronicle of many. Jobs are told apart by their numbers, which are given out one
after the other; so what a job owes from its first moment on can be followed through everything
that the others do in between. -/
namespace Onboarding.Chronicle

variable {κ σ : Type} {F : Signature} {α : Type} {c : Chronicle κ σ F α}

/-- Everything on record was done by jobs with `P`. -/
structure Authors (P : Party κ → Prop) (c : Chronicle κ σ F α) : Prop where
  pending : ∀ w ∈ c.pending, P w.party
  deeds : ∀ d ∈ c.deeds, P d.party
  ended : ∀ e ∈ c.ended, P e.party

namespace Authors

variable {P Q : Party κ → Prop}

theorem mono (authors : Authors P c) (weaker : ∀ p, P p → Q p) : Authors Q c where
  pending w member := weaker _ (authors.pending w member)
  deeds d member := weaker _ (authors.deeds d member)
  ended e member := weaker _ (authors.ended e member)

theorem follow (authors : Authors P c) {p : Party κ} (itself : P p) (heard : List (Heard σ F))
    (j : Job σ F α) : Authors P (follow p heard j c) := by
  refine follow_keeps (I := Authors P) (P := Authors P) heard j authors (fun v s authors => ?_)
    (fun v w authors same => ?_) fun v e authors same => ?_
  · exact { authors with deeds := List.forall_mem_cons.mpr ⟨itself, authors.deeds⟩ }
  · exact { authors with pending := forall_concat authors.pending (same ▸ itself) }
  · exact { authors with ended := List.forall_mem_cons.mpr ⟨same ▸ itself, authors.ended⟩ }

theorem leave (authors : Authors P c) (place : Nat) :
    Authors P { c with pending := c.pending.eraseIdx place } :=
  { authors with pending := fun w member =>
      authors.pending w (List.mem_of_mem_eraseIdx member) }

theorem reply (authors : Authors P c) (place : Nat) (say : ∀ q : F.Request, Option (F.Reply q)) :
    Authors P (c.reply place say) := by
  rcases c.reply_cases place say with same | ⟨w, answer, found, _, same⟩ <;> rw [same]
  · exact authors
  · exact (authors.leave place).follow (authors.pending w (List.mem_of_getElem? found)) _ _

end Authors

/-- Only numbers that have been given out are on record. -/
def Counted (c : Chronicle κ σ F α) : Prop := Authors (·.number < c.begun) c

theorem Counted.start (counted : c.Counted) (agent : κ) (j : Job σ F α) :
    (c.start agent j).Counted := by
  have older : Authors (·.number < c.begun + 1) c := counted.mono fun _ => Nat.lt_succ_of_lt
  have grown : Authors (·.number < c.begun + 1) { c with begun := c.begun + 1 } :=
    ⟨older.pending, older.deeds, older.ended⟩
  unfold Counted
  rw [c.begun_start]
  exact grown.follow (Nat.lt_succ_self _) [] j

theorem Counted.reply (counted : c.Counted) (place : Nat)
    (say : ∀ q : F.Request, Option (F.Reply q)) : (c.reply place say).Counted := by
  unfold Counted
  rw [c.begun_reply]
  exact Authors.reply counted place say

/-- What the job of a number has done is as the protocol has it, and so it will be when the job
goes on. -/
structure Tracks (n : Nat) (π : Protocol σ F) (post : Post σ F α) (c : Chronicle κ σ F α) :
    Prop where
  pending : ∀ w ∈ c.pending, w.party.number = n → π.waits w.heard w.request w.since ∧
    ∀ r t, π.finds w.request r w.since t →
      (w.next r).Obeys π post (w.heard ++ [⟨w.request, r, t⟩]) t
  deeds : ∀ d ∈ c.deeds, d.party.number = n → π.writes d.heard d.before d.after
  ended : ∀ e ∈ c.ended, e.party.number = n → post e.heard e.ending e.state

namespace Tracks

variable {n : Nat} {π : Protocol σ F} {post : Post σ F α}

/-- The job has not begun yet. -/
theorem new (counted : c.Counted) : Tracks c.begun π post c where
  pending w member same := absurd (counted.pending w member) (same ▸ Nat.lt_irrefl _)
  deeds d member same := absurd (counted.deeds d member) (same ▸ Nat.lt_irrefl _)
  ended e member same := absurd (counted.ended e member) (same ▸ Nat.lt_irrefl _)

theorem follow (tracks : Tracks n π post c) (p : Party κ) (heard : List (Heard σ F))
    {j : Job σ F α} (obeys : p.number = n → j.Obeys π post heard c.state) :
    Tracks n π post (follow p heard j c) := by
  induction j generalizing c with
  | done a => exact { tracks with ended := List.forall_mem_cons.mpr ⟨obeys, tracks.ended⟩ }
  | crash x => exact { tracks with ended := List.forall_mem_cons.mpr ⟨obeys, tracks.ended⟩ }
  | ask q next ih =>
    match q with
    | .read => exact ih c.state tracks obeys
    | .write s =>
      refine ih () { tracks with deeds := List.forall_mem_cons.mpr ⟨?_, tracks.deeds⟩ } ?_
      · intro same
        exact (obeys same).1
      · intro same
        exact (obeys same).2
    | .outside q =>
      exact { tracks with pending := forall_concat tracks.pending obeys }

theorem start (tracks : Tracks n π post c) (agent : κ) {j : Job σ F α}
    (obeys : c.begun = n → j.Obeys π post [] c.state) : Tracks n π post (c.start agent j) :=
  follow (c := { c with begun := c.begun + 1 }) ⟨tracks.pending, tracks.deeds, tracks.ended⟩ _ _
    obeys

theorem reply (tracks : Tracks n π post c) (place : Nat)
    (say : ∀ q : F.Request, Option (F.Reply q))
    (finds : ∀ w ∈ c.pending, ∀ r, say w.request = some r → π.finds w.request r w.since c.state) :
    Tracks n π post (c.reply place say) := by
  rcases c.reply_cases place say with same | ⟨w, answer, found, said, same⟩ <;> rw [same]
  · exact tracks
  have member := List.mem_of_getElem? found
  have left : Tracks n π post { c with pending := c.pending.eraseIdx place } :=
    { tracks with pending := fun v remains =>
        tracks.pending v (List.mem_of_mem_eraseIdx remains) }
  refine left.follow _ _ fun same => ?_
  exact (tracks.pending w member same).2 answer c.state (finds w member answer said)

end Tracks

end Onboarding.Chronicle
