import Onboarding.Proofs.Job.Chronicle

/-! The steps of a chronicle, from each moment to the one after it. Everything that a job writes is
such a step and is on record as its deed, so what else has moved the state came from outside. -/
namespace Onboarding.Chronicle

variable {κ σ : Type} {F : Signature} {α : Type} {c : Chronicle κ σ F α} {s t : σ}

/-- The second state came right after the first. -/
def Stepped (c : Chronicle κ σ F α) (s t : σ) : Prop := [t, s] <:+: c.seen

theorem stepped_put (u : σ) :
    (c.put u).Stepped s t ↔ s = c.state ∧ t = u ∨ c.Stepped s t := by
  unfold Stepped
  rw [show (c.put u).seen = u :: c.state :: c.past from rfl, List.infix_cons_iff,
    List.cons_prefix_cons, List.cons_prefix_cons]
  refine or_congr_left ⟨?_, ?_⟩
  · rintro ⟨new, old, _⟩
    exact ⟨old, new⟩
  · rintro ⟨old, new⟩
    exact ⟨new, old, List.nil_prefix⟩

/-- All deeds are steps, and a step that is no deed is `R`. -/
structure Explained (R : σ → σ → Prop) (c : Chronicle κ σ F α) : Prop where
  deeds : ∀ d ∈ c.deeds, c.Stepped d.before d.after
  steps : ∀ s t, c.Stepped s t → R s t ∨ ∃ d ∈ c.deeds, d.before = s ∧ d.after = t

namespace Explained

variable {R : σ → σ → Prop}

theorem new (s : σ) : Explained R ({ state := s } : Chronicle κ σ F α) where
  deeds := by simp
  steps s t stepped := absurd stepped.length_le (by simp [seen])

theorem put (explained : c.Explained R) {s : σ} (moves : R c.state s) : (c.put s).Explained R where
  deeds d member := (stepped_put s).mpr (.inr (explained.deeds d member))
  steps u v stepped := by
    rcases (stepped_put s).mp stepped with ⟨rfl, rfl⟩ | before
    · exact .inl moves
    · exact explained.steps u v before

theorem deed (explained : c.Explained R) (p : Party κ) (heard : List (Heard σ F)) (s : σ) :
    Explained R { c.put s with deeds := ⟨p, heard, c.state, s⟩ :: c.deeds } where
  deeds := List.forall_mem_cons.mpr ⟨(stepped_put s).mpr (.inl ⟨rfl, rfl⟩), fun d member =>
    (stepped_put s).mpr (.inr (explained.deeds d member))⟩
  steps u v stepped := by
    rcases (stepped_put s).mp stepped with ⟨rfl, rfl⟩ | before
    · exact .inr ⟨_, List.mem_cons_self .., rfl, rfl⟩
    · refine (explained.steps u v before).imp_right ?_
      rintro ⟨d, member, same⟩
      exact ⟨d, List.mem_cons_of_mem _ member, same⟩

end Explained

end Onboarding.Chronicle
