import Onboarding.Proofs.Flow.Rules
import Onboarding.Proofs.Registry.Errands

/-! Errands of a flow, among integrations that answer and leave the registry alone, and calls that
leave to each other the entries that they are about. -/
namespace Onboarding

/-- The entry has the unique id of the flow, for its handler. -/
def Context.Names (c : Context) (e : Entry) : Prop :=
  ∃ uniqueId, c.uniqueId = some uniqueId ∧ e.identity? = some ⟨c.handler, uniqueId⟩

namespace Desk

open Job

variable {H : Type} {F : Signature} {T : Terms (Desk H) (.desk F)} {own : String → Prop}
  {d : Desk H} {heard : List (Heard (Desk H) (.desk F))}

/-- Terms on which integrations answer and leave the registry alone, the entries of a call stay as
they are while it waits for its turn, and a call may write anything. -/
structure Considerate (own : String → Prop) (T : Terms (Desk H) (.desk F)) : Prop where
  hosting : ∀ q reply d t, T.finds (.hosting q) reply d t →
    (Registry.calm own).finds q reply d.registry t.registry
  writes : ∀ heard d t, T.writes heard d t

/-- The weakest of these terms. -/
def calm (F : Signature) (own : String → Prop) : Terms (Desk H) (.desk F) where
  finds
    | .hosting q, reply, d, t => (Registry.calm own).finds q reply d.registry t.registry
    | _, _, _, _ => True
  writes _ _ _ := True

theorem considerate_calm (F : Signature) (own : String → Prop) :
    Considerate own (calm F own : Terms (Desk H) (.desk F)) :=
  ⟨fun _ _ _ _ found => found, fun _ _ _ => trivial⟩

/-- An errand comes on a desk to what it does on the registry, and what else is there stays as long
as it does while the errand waits. -/
theorem Considerate.ensures_errand_keeping (considerate : Considerate own T)
    (filed : d.registry.Filed) (errand : Registry.Errand) {I : Desk H → Prop}
    (apart : ∀ d r, I d → I { d with registry := r })
    (stays : ∀ q reply d t, T.finds q reply d t → I d → I t) (start : I d) :
    (Work.host errand.action : Work H F (Except RegistryError Unit)).Ensures T
      (fun later ended t => Registry.comesTo own (heard.filterMap hosted) d.registry errand.does
        (later.filterMap hosted) ended t.registry ∧ I t) heard d := by
  let placing : Terms (Desk H) (.desk F) :=
    ⟨T.finds, fun _ s t => ∃ r, t = { s with registry := r }⟩
  have ensures : (Work.host errand.action : Work H F (Except RegistryError Unit)).Ensures placing
      (fun later ended t => Registry.comesTo own (heard.filterMap hosted) d.registry errand.does
        (later.filterMap hosted) ended t.registry) heard d :=
    Work.ensures_host considerate.hosting (fun _ _ r => ⟨r, rfl⟩)
      (Registry.Action.comesTo_errand filed errand)
  refine ensures_mono (T := placing) I (fun q r s t kept found => ⟨found, stays q r s t found kept⟩)
    (fun heard s t kept placed => ⟨considerate.writes heard s t, ?_⟩)
    (fun heard e t kept comes => ⟨comes, kept⟩) start ensures
  obtain ⟨r, rfl⟩ := placed
  exact apart s r kept

theorem Considerate.ensures_errand (considerate : Considerate own T) (filed : d.registry.Filed)
    (errand : Registry.Errand) :
    (Work.host errand.action : Work H F (Except RegistryError Unit)).Ensures T
      (fun later ended t => Registry.comesTo own (heard.filterMap hosted) d.registry errand.does
        (later.filterMap hosted) ended t.registry) heard d :=
  ensures_imp (fun _ _ _ comes => comes.1) (considerate.ensures_errand_keeping filed errand
    (I := fun _ => True) (fun _ _ _ => trivial) (fun _ _ _ _ _ _ => trivial) trivial)

theorem mutate_of {α : Type} {f : Registry → Registry × α} {result : Registry × α}
    (changed : f d.registry = result) :
    d.mutate f = (result.2, { d with registry := result.1 }) := by
  rw [← changed]
  rfl

end Desk

end Onboarding
