import Onboarding.Registry.Setup
import Onboarding.Proofs.Job.Keeps

/-! What setups, unloads and reloads do to the registry. Whatever the integrations answer, each
of their writes takes or gives back the turn, or moves one entry to another phase. -/
namespace Onboarding.Registry

/-- One write of a setup, an unload or a reload. -/
inductive Lifecycle : Registry → Registry → Prop where
  | turn (r : Registry) (busy : Bool) : Lifecycle r { r with settingUp := busy }
  | phase {r : Registry} {id : String} {old e : Entry} {target : Phase} {reason : Option String}
    (held : r.get? id = some old) (led : old.enter target reason = .ok e) :
    Lifecycle r { r with toCatalog := r.revise e }

theorem lifecycle_enter {r next : Registry} {id : String} {target : Phase} {reason : Option String}
    (entered : r.enter id target reason = .ok next) : Lifecycle r next := by
  unfold Registry.enter at entered
  split at entered
  · cases entered
  · rename_i old held
    split at entered
    · rename_i e led
      cases entered
      exact .phase held led
    · cases entered

namespace Action

variable {α : Type}

open Job

/-- All writes of the action are of the lifecycle. -/
def Cycles (a : Action α) : Prop := a.run.Always (fun _ => True) Lifecycle

theorem cycles_enter (id : String) (target : Phase) (reason : Option String) :
    Cycles (enter id target reason) := by
  intro r _
  refine keeps_run_get_bind ?_
  split
  · rename_i entered
    exact ⟨⟨trivial, lifecycle_enter entered⟩, trivial⟩
  · trivial

theorem cycles_inTurn {a : Action α} (acts : Cycles a) : Cycles (inTurn a) := by
  have taking (busy : Bool) (r : Registry) (_ : True) :
      True ∧ Lifecycle r { r with settingUp := busy } := ⟨trivial, .turn r busy⟩
  have rest : Cycles (do
      modify ({ · with settingUp := true })
      ExceptT.mk (a.run.closing (modify ({ · with settingUp := false })))) :=
    always_run_modify_bind (taking true) fun _ => always_closing acts (always_modify (taking false))
  refine always_run_get_bind fun r => ?_
  split
  · exact always_run_bind (always_run_lift (always_call _)) fun _ => rest
  · exact rest

theorem cycles_setUpNow (id : String) : Cycles (setUpNow id) := by
  refine always_run_get_bind fun r => ?_
  split
  · exact always_run_throw _
  rename_i e _
  split
  · exact always_pure _
  refine always_run_bind (cycles_enter id _ none) fun _ => always_run_get_bind fun r => ?_
  split
  · refine always_run_bind (always_run_lift (always_call _)) fun verdict => ?_
    cases verdict with
    | ready => exact cycles_enter id .loaded none
    | failed reason =>
      exact always_run_bind (cycles_enter id .setupError (some reason)) fun _ => always_run_throw _
    | crashed x => exact fun _ _ => trivial
  · exact cycles_enter id .loaded none

theorem cycles_unloadNow (id : String) : Cycles (unloadNow id) :=
  always_run_bind (cycles_enter id .unloadInProgress none) fun _ => cycles_enter id .notLoaded none

theorem cycles_setUp (id : String) : Cycles (setUp id) := cycles_inTurn (cycles_setUpNow id)

theorem cycles_unload (id : String) : Cycles (unload id) := cycles_inTurn (cycles_unloadNow id)

theorem cycles_reload (id : String) : Cycles (reload id) :=
  cycles_inTurn (always_run_bind (cycles_unloadNow id) fun _ => cycles_setUpNow id)

end Action

end Onboarding.Registry
