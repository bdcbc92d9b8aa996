import Onboarding.Coordinator.Station
import Onboarding.Proofs.Job.Protocol

/-! Who is called when a coordinator refreshes: everyone who is registered when the fetch has ended,
once, in whatever order, and whatever the listeners do meanwhile to the coordinator and to the
station around it. -/
namespace Onboarding

/-- What a fetch tells about the device, unless it crashes. -/
def Fetch.success? : Fetch → Option Bool
  | ok => some true
  | failed _ => some false
  | crashed _ => none

namespace Coordinator

variable {L : Type}

def everyone (c : Coordinator L) : List L := c.listeners.toList.map (·.2)

/-- An order in which everyone may be called. -/
structure Order (L : Type) where
  calls : Coordinator L → List L
  perm : ∀ c, (calls c).Perm c.everyone

def Order.ascending : Order L := ⟨everyone, fun _ => .refl _⟩

/-- A refresh that goes through the listeners in a given order. -/
def refreshBy (order : Order L) : Work L Unit := do
  match ← ask .fetch with
  | .ok => modify ({ · with lastSuccess := true })
  | .failed _ => modify ({ · with lastSuccess := false })
  | .crashed x => Prog.crash x
  notifyAll (order.calls (← get))

theorem refresh_eq : refresh = refreshBy (L := L) .ascending := rfl

/-- The coordinator with the outcome of a fetch noted. -/
def noting (c : Coordinator L) (success : Bool) : Coordinator L := { c with lastSuccess := success }

/-- What a refresh has heard. -/
abbrev History (L : Type) := List (Heard (Coordinator L) (.refreshing L))

/-- The listeners that have been called. -/
def called (heard : History L) : List L :=
  heard.filterMap fun h => match (h.request : Refreshing L) with
    | .fetch => none
    | .notify l => some l

@[simp] theorem called_append (heard : History L) (l : L) (found : Coordinator L) :
    called (heard ++ [⟨Refreshing.notify l, (), found⟩]) = called heard ++ [l] := by
  simp [called]

/-- The fetch has told how the device does, the outcome is noted, and then calls were made. -/
structure Told (fetched : Fetch) (success : Bool) (found : Coordinator L) (calls heard : History L)
    (s : Coordinator L) : Prop where
  begins : heard = ⟨Refreshing.fetch, fetched, found⟩ :: calls
  outcome : fetched.success? = some success
  /-- Before any listener runs the outcome is noted, and nothing else is done. -/
  noted : calls = [] → s = found.noting success

/-- A refresh fetches first. It writes once, when the fetch has ended, and what it writes is the
outcome. Then it calls those who are registered by then, one after the other. -/
def Order.protocol (order : Order L) : Protocol (Coordinator L) (.refreshing L) where
  finds _ _ _ _ := True
  writes heard s t := ∃ fetched success, heard = [⟨Refreshing.fetch, fetched, s⟩] ∧
    fetched.success? = some success ∧ t = s.noting success
  waits heard q s := match (q : Refreshing L) with
    | .fetch => heard = []
    | .notify l => ∃ fetched success found calls, Told fetched success found calls heard s ∧
        called calls ++ [l] <+: order.calls (found.noting success)

/-- How a refresh ends. -/
inductive Rounded : History L → Except Crash Unit → Coordinator L → Prop where
  /-- Everyone who was registered when the fetch had ended has been called once. -/
  | all {fetched success found calls heard s} (told : Told fetched success found calls heard s)
      (once : (called calls).Perm found.everyone) : Rounded heard (.ok ()) s
  /-- No one has been called, and the coordinator is as it was. -/
  | none (x : Crash) (found : Coordinator L) :
      Rounded [⟨Refreshing.fetch, Fetch.crashed x, found⟩] (.error x) found

theorem obeys_notifyAll (order : Order L) {fetched : Fetch} {success : Bool}
    {found s : Coordinator L} {calls heard : History L} {rest : List L}
    (told : Told fetched success found calls heard s)
    (whole : called calls ++ rest = order.calls (found.noting success)) :
    (notifyAll rest).Obeys order.protocol Rounded heard s := by
  induction rest generalizing calls heard s with
  | nil =>
    rw [List.append_nil] at whole
    exact .all told (whole ▸ order.perm _)
  | cons l rest ih =>
    constructor
    · refine ⟨fetched, success, found, calls, told, rest, ?_⟩
      rw [List.append_assoc]
      exact whole
    · intro reply t _
      have next : Told fetched success found (calls ++ [⟨Refreshing.notify l, (), t⟩])
          (heard ++ [⟨Refreshing.notify l, reply, t⟩]) t := by
        refine ⟨?_, told.outcome, by simp⟩
        rw [told.begins]
        rfl
      apply ih next
      rw [called_append, List.append_assoc]
      exact whole

/-- Whatever order the listeners come in, and whatever they do, a refresh calls everyone once. -/
theorem obeys_refreshBy (order : Order L) (s : Coordinator L) :
    (refreshBy order).Obeys order.protocol Rounded [] s := by
  refine ⟨rfl, fun fetched found _ => ?_⟩
  have ends : ∀ success, (fetched : Fetch).success? = some success →
      (modify ({ · with lastSuccess := success }) >>= fun _ => get >>= fun c =>
        notifyAll (order.calls c) : Work L Unit).Obeys order.protocol Rounded
        [⟨Refreshing.fetch, fetched, found⟩] found := by
    intro success outcome
    refine ⟨⟨fetched, success, rfl, outcome, rfl⟩, ?_⟩
    exact obeys_notifyAll order ⟨rfl, outcome, fun _ => rfl⟩ rfl
  cases fetched with
  | ok => exact ends true rfl
  | failed reason => exact ends false rfl
  | crashed x => exact .none x found

end Coordinator

namespace Station

variable {L : Type}

def refreshBy (order : Coordinator.Order L) : Work L Unit :=
  Job.within Station.coordinator (fun coordinator s => { s with coordinator })
    (fun q => Job.call (F := .refreshing L) q) (Coordinator.refreshBy order)

theorem refresh_eq : refresh = refreshBy (L := L) .ascending := rfl

/-- What a refresh owes the coordinator of a station. -/
def protocolOf (order : Coordinator.Order L) : Protocol (Station L) (.refreshing L) :=
  order.protocol.within Station.coordinator fun coordinator s => { s with coordinator }

/-- A refresh calls everyone who is registered when the fetch has ended, once, whatever order the
listeners come in and whatever they do to the coordinator, or to the station around it. -/
theorem everyone_called_once :
    (Coordinator.refresh = Coordinator.refreshBy (L := L) .ascending ∧
      Station.refresh = Station.refreshBy (L := L) .ascending) ∧
    ∀ order : Coordinator.Order L,
      (∀ c, (Coordinator.refreshBy order).Obeys order.protocol Coordinator.Rounded [] c) ∧
      ∀ s, (Station.refreshBy order).Obeys (protocolOf order) (fun heard ending t =>
        Coordinator.Rounded (heard.map (·.part coordinator)) ending t.coordinator) [] s := by
  refine ⟨⟨Coordinator.refresh_eq, refresh_eq⟩, fun order => ?_⟩
  constructor
  · exact Coordinator.obeys_refreshBy order
  · intro s
    exact Job.obeys_within (fun _ _ => rfl) (Coordinator.obeys_refreshBy order s.coordinator)

end Station

end Onboarding
