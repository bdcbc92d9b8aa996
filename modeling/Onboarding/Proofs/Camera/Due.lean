import Onboarding.Proofs.Camera.Furnished

/-! What calls on the flows of cameras owe. A call that has identified a device owes an answer by
what is registered as the device is logged out: a device of which there is an entry is acknowledged,
and only one of which there is none is onboarded. -/
namespace Onboarding.Camera

open Desk Job

section Hearing

variable {heard later : List (Heard (Desk Memory) (.desk device))} {h : Handshake} {i : Identified}
  {d : Desk Memory}

/-- How the handshake ended that a call has heard of. -/
def told (heard : List (Heard (Desk Memory) (.desk device))) : Option Handshake :=
  heard.findSome? fun
    | ⟨.device (.handshake _), h, _⟩ => some h
    | _ => none

/-- The desk as a call found it when its device was logged out. -/
def leftAt (heard : List (Heard (Desk Memory) (.desk device))) : Option (Desk Memory) :=
  heard.findSome? fun
    | ⟨.device (.logout _), _, d⟩ => some d
    | _ => none

/-- A call has identified a device, and logged out of it at a desk. -/
structure Recognised (heard : List (Heard (Desk Memory) (.desk device))) (h : Handshake)
    (i : Identified) (d : Desk Memory) : Prop where
  told : told heard = some h
  outcome : h.outcome = .ok i
  left : leftAt heard = some d

theorem Recognised.grow (recognised : Recognised heard h i d) (grown : heard <+: later) :
    Recognised later h i d where
  told := grown.findSome?_eq_some recognised.told
  outcome := recognised.outcome
  left := grown.findSome?_eq_some recognised.left

/-- A call recognises one device, and leaves it once. -/
theorem Recognised.same {h' : Handshake} {i' : Identified} {d' : Desk Memory}
    (recognised : Recognised heard h i d) (recognised' : Recognised heard h' i' d') :
    h' = h ∧ i' = i ∧ d' = d := by
  cases recognised.told.symm.trans recognised'.told
  cases recognised.outcome.symm.trans recognised'.outcome
  cases recognised.left.symm.trans recognised'.left
  exact ⟨rfl, rfl, rfl⟩

/-- The answer says that the device is configured, or is so again, or that the registry failed. -/
def Acknowledges : Except FlowError FlowResult → Prop
  | .ok r => r.body = .aborted alreadyConfigured ∨ r.body = .aborted reauthSuccessful
  | .error e => ∃ x, e = .registry x

/-- The answer says that an entry has been made. -/
def Creates (answer : Except FlowError FlowResult) : Prop :=
  ∃ r title data options version entryId,
    answer = .ok r ∧ r.body = .created title data options version (some entryId)

/-- The desk is fit for the flows of cameras, and `P` has been kept. -/
def Attending (P : Desk Memory → Prop) (d : Desk Memory) : Prop := Furnished d ∧ P d

/-- What a call may answer: only a device that it has recognised and that was not registered is
onboarded, and one that was registered is acknowledged. -/
structure Due (P : Desk Memory → Prop) (heard : List (Heard (Desk Memory) (.desk device)))
    (answer : Except FlowError FlowResult) : Prop where
  kept : ∀ h i d, Recognised heard h i d → Attending P d
  known : ∀ h i d e, Recognised heard h i d → d.registry.holder? ⟨domain, i.uniqueId⟩ = some e →
    Acknowledges answer
  new : Creates answer → ∃ h i d, Recognised heard h i d ∧
    d.registry.holder? ⟨domain, i.uniqueId⟩ = none

variable {P : Desk Memory → Prop} {answer : Except FlowError FlowResult}

theorem due_unrecognised (none : ∀ h i d, ¬ Recognised heard h i d) (other : ¬ Creates answer) :
    Due P heard answer where
  kept h i d recognised := absurd recognised (none h i d)
  known h i d _ recognised := absurd recognised (none h i d)
  new creates := absurd creates other

theorem due_acknowledged (recognised : Recognised heard h i d) (kept : Attending P d)
    (acknowledges : Acknowledges answer) : Due P heard answer where
  kept h' i' d' recognised' := by
    obtain ⟨rfl, rfl, rfl⟩ := recognised.same recognised'
    exact kept
  known _ _ _ _ _ _ := acknowledges
  new := by
    rintro ⟨r, title, data, options, version, entryId, rfl, body⟩
    rcases acknowledges with here | here <;> cases body.symm.trans here

theorem due_new (recognised : Recognised heard h i d) (kept : Attending P d)
    (new : d.registry.holder? ⟨domain, i.uniqueId⟩ = none) : Due P heard answer where
  kept h' i' d' recognised' := by
    obtain ⟨rfl, rfl, rfl⟩ := recognised.same recognised'
    exact kept
  known h' i' d' e recognised' known := by
    obtain ⟨rfl, rfl, rfl⟩ := recognised.same recognised'
    cases new.symm.trans known
  new _ := ⟨h, i, d, recognised, new⟩

end Hearing

/-- The address that a reply reports. -/
def Reports : (q : Calling device) → q.Reply → String → Prop
  | .device (.handshake _), h, m => h.report.address = some m
  | _, _, _ => False

/-- The desk stays fit for the flows of cameras and keeps `P`, and every answer is due. -/
def attended (P : Desk Memory → Prop) (M : String → Prop) :
    Contract (Option String) (Desk Memory) (.desk device) Answer where
  hears q r := ∀ m, Reports q r m → M m
  holds := Attending P
  later := Later
  writes _ _ _ _ := True
  ends _ heard ended _ := ∀ answer, ended = .ok (.flow answer) → Due P heard answer
  refl := Later.refl
  trans := Later.trans

/-- What the call of a flow owes. -/
def attends (P : Desk Memory → Prop) :
    Post (Desk Memory) (.desk device) (Except FlowError FlowResult) := fun heard ended t =>
  Attending P t ∧ ∀ answer, ended = .ok answer → Due P heard answer

end Onboarding.Camera
