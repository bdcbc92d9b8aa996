import Onboarding.Proofs.Flow.Answers
import Onboarding.Proofs.Issue
import Onboarding.Proofs.Registry.Course

/-! What the calls on a desk do to its registry. Whatever the steps of the flows decide and the
outside answers, each write of a call gives out an id, updates an entry, moves one through its
lifecycle, or adds one under an id that was just given out; or it leaves the registry alone. -/
namespace Onboarding.Desk

variable {H : Type} {F : Signature} {α : Type} {d t : Desk H}

/-- Entries are filed under their ids, and none of them has an id that is yet to be given out. -/
structure Orderly (d : Desk H) : Prop where
  filed : d.registry.Filed
  reserved : ∀ n, d.issued ≤ n → d.registry.get? (Issue.id n) = none

/-- The id of an entry to be added is neither in use nor yet to be given out. -/
def Admits (d : Desk H) : Registry.Change → Prop
  | .mutate (.add e) => d.registry.get? e.id = none ∧ ∀ n, d.issued ≤ n → e.id ≠ Issue.id n
  | _ => True

/-- One write, as far as the registry and the ids given out are concerned. -/
inductive Move : Desk H → Desk H → Prop where
  | aside {d t : Desk H} (registry : t.registry = d.registry) (issued : t.issued = d.issued) :
    Move d t
  | issue (d : Desk H) : Move d d.issue.2
  | mutate {d t : Desk H} {m : Registry.Mutation} (admitted : d.Admits (.mutate m))
    (registry : t.registry = (m.run d.registry).1) (issued : t.issued = d.issued) : Move d t
  | lifecycle {d : Desk H} {s : Registry} (moved : Registry.Lifecycle d.registry s) :
    Move d { d with registry := s }

theorem Orderly.change (orderly : d.Orderly) {c : Registry.Change} (admitted : d.Admits c)
    (registry : t.registry = c.apply d.registry) (issued : t.issued = d.issued) : t.Orderly := by
  rcases c.catalog d.registry with same | ⟨m, rfl, step⟩
  · exact ⟨by rw [registry, same]; exact orderly.filed,
      by rw [registry, same, issued]; exact orderly.reserved⟩
  · refine ⟨registry ▸ step.filed orderly.filed, fun n later => ?_⟩
    rw [issued] at later
    rw [registry]
    by_contra held
    rcases step.held_before orderly.filed held with before | ⟨e, rfl, here⟩
    · exact before (orderly.reserved n later)
    · exact admitted.2 n later here

theorem Orderly.move (orderly : d.Orderly) (moved : Move d t) : t.Orderly := by
  cases moved with
  | aside registry issued => exact ⟨registry ▸ orderly.filed, registry ▸ issued ▸ orderly.reserved⟩
  | issue => exact ⟨orderly.filed, fun n later => orderly.reserved n (Nat.le_of_succ_le later)⟩
  | mutate admitted registry issued => exact orderly.change admitted registry issued
  | @lifecycle s moved =>
    cases moved with
    | turn busy => exact ⟨orderly.filed, orderly.reserved⟩
    | @phase id old e target reason held led =>
      refine ⟨orderly.filed.revise e, fun n later => ?_⟩
      have here : e.id = id := (Entry.enter_same led).1.trans (orderly.filed id old held)
      have apart : e.id ≠ Issue.id n := by
        rintro same
        rw [here.symm.trans same, orderly.reserved n later] at held
        cases held
      rw [Catalog.get?_revise, if_neg apart]
      exact orderly.reserved n later

/-- An id that was given out just before is no entry's, and will be given to none. -/
theorem Orderly.admits (orderly : d.Orderly) {e : Entry} (given : e.id = Issue.id d.issued) :
    d.issue.2.Admits (.mutate (.add e)) := by
  refine ⟨given ▸ orderly.reserved d.issued (Nat.le_refl _), fun n later same => ?_⟩
  have := Issue.id_inj (given.symm.trans same)
  exact absurd later (this ▸ Nat.not_succ_le_self d.issued)

open Job

/-- All writes of the work are moves of an orderly desk. -/
abbrev Work.Moves (w : Work H F α) : Prop := w.Always Orderly Move

theorem closed_move : Closed (Orderly (H := H)) Move where
  note orderly notes :=
    have moved := Move.aside notes.registry notes.issued
    ⟨orderly.move moved, moved⟩
  draw {d} orderly := ⟨orderly.move (.issue d), .issue d⟩
  add {d e} orderly given := by
    have added : Move d.issue.2 (d.issue.2.mutate (·.add e)).2 :=
      .mutate (orderly.admits given) rfl rfl
    exact ⟨(orderly.move (.issue d)).move added, added⟩
  update {d} id u now orderly :=
    have moved : Move d (d.mutate (·.update id u now)).2 :=
      .mutate (m := .update id u now) trivial rfl rfl
    ⟨orderly.move moved, moved⟩
  lifecycle _ _ orderly moved := ⟨orderly.move (.lifecycle moved), .lifecycle moved⟩

theorem Work.moves_host {a : Registry.Action α} (cycles : a.Cycles) :
    Moves (host a : Work H F (Except RegistryError α)) := keeps_host closed_move.lifecycle cycles

namespace Action

abbrev Moves (a : Action H F α) : Prop := Work.Moves a.run

theorem opens_moves (steps : Steps H F) {d : Desk H} (orderly : d.Orderly) :
    Opens steps (.keeping Orderly Move) (fun _ _ _ => True) [] d := by
  intro kind memory c step data _
  have issued : d.issue.2.Orderly := orderly.move (.issue d)
  have listed : Move d.issue.2 (d.issue.2.enroll kind memory c step) := .aside rfl rfl
  refine ⟨⟨issued, .issue d⟩, ⟨issued.move listed, listed⟩, ?_⟩
  exact ensures_imp (fun _ _ _ _ => trivial)
    (naming_underWay closed_move steps c.flowId step data (issued.move listed))

end Action

end Onboarding.Desk
