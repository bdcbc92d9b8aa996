import Onboarding.Proofs.Registry.Standstill

/-! Setups and reloads whose entry is left to them. They come to an end, leave their entry loaded or
failed, or not loaded if it is disabled, and leave all other entries as they find them in their
turn. -/
namespace Onboarding

/-- What trying to set an entry up may make of it. -/
inductive Entry.Tried (e : Entry) : Entry → Prop where
  | disabled (disabled : e.isDisabled = true) : Tried e e.persisted
  | loaded (enabled : e.isDisabled = false) : Tried e { e with phase := .loaded, reason := none }
  | failed (enabled : e.isDisabled = false) (reason : String) :
    Tried e { e with phase := .setupError, reason := some reason }

/-- The entry of the id is this one, and all others are as in another catalog. -/
structure Catalog.Only (base : Catalog) (id : String) (e : Entry) (c : Catalog) : Prop where
  here : c.get? id = some e
  others : ∀ other, id ≠ other → c.get? other = base.get? other

theorem Catalog.Only.revise {base c : Catalog} {id : String} {old e : Entry}
    (only : base.Only id old c) (here : e.id = id) : base.Only id e (c.revise e) where
  here := by rw [get?_revise, if_pos here]
  others other apart := by
    rw [get?_revise, if_neg (here ▸ apart)]
    exact only.others other apart

namespace Registry

/-- Whatever else is done while a call waits for its turn, its own entries stay as they are; and an
integration that is asked to set an entry up gives an answer and leaves the registry alone. -/
def undisturbed (own : Entry → Prop) : Terms Registry .hosting where
  finds
    | .setUp _, verdict, s, t => t = s ∧ ∀ x, verdict ≠ .crashed x
    | .awaitTurn, _, s, t => ∀ id e, s.get? id = some e → own e → t.get? id = some e
  writes _ _ _ := True

/-- The registry as a call found it that had to wait for its turn, or else as it was at first. -/
def turnedAt (r : Registry) (heard : List (Heard Registry .hosting)) : Registry :=
  (heard.findSome? fun
    | ⟨.awaitTurn, _, s⟩ => some s
    | _ => none).getD r

theorem turnedAt_asked (r : Registry) (heard : List (Heard Registry .hosting)) (e : Entry)
    (verdict : Verdict) (s : Registry) :
    turnedAt r (heard ++ [⟨.setUp e, verdict, s⟩]) = turnedAt r heard := by
  rw [turnedAt, turnedAt, List.findSome?_append]
  simp

/-- Where a call starts from only matters as far as the other entries go. -/
theorem only_turnedAt (base : Registry) {r : Registry} {heard : List (Heard Registry .hosting)}
    {id : String} {e : Entry} {c : Catalog}
    (others : ∀ other, id ≠ other → r.get? other = base.get? other)
    (only : (turnedAt r heard).Only id e c) : (turnedAt base heard).Only id e c := by
  unfold turnedAt at only ⊢
  cases waited : heard.findSome? _ with
  | none =>
    rw [waited] at only
    exact ⟨only.here, fun other apart => (only.others other apart).trans (others other apart)⟩
  | some s =>
    rw [waited] at only
    exact only

/-- The call ends, having tried to set the entry up: the setup succeeds or fails, and no other entry
has changed. -/
def tries (r : Registry) (id : String) (e : Entry) :
    Post Registry .hosting (Except RegistryError Unit) := fun heard ended s =>
  (ended = .ok (.ok ()) ∨ ∃ reason, ended = .ok (.error (.setupFailed reason))) ∧
    ∃ e', e.Tried e' ∧ (turnedAt r heard).Only id e' s.toCatalog

namespace Action

variable {α : Type} {post : Post Registry .hosting (Except RegistryError α)} {r s : Registry}
  {heard : List (Heard Registry .hosting)} {base : Catalog} {e : Entry} {id : String}
  {target : Phase} {reason : Option String} {own : Entry → Prop}

theorem ensures_enter_only {f : Unit → Action α} (only : base.Only id e s.toCatalog)
    (here : e.id = id) (leads : e.phase.leadsTo target = true)
    (entered : ∀ t : Registry, base.Only id { e with phase := target, reason } t.toCatalog →
      (f ()).run.Ensures (undisturbed own) post heard t) :
    (enter id target reason >>= f).run.Ensures (undisturbed own) post heard s :=
  ensures_enter only.here leads trivial
    (entered _ (only.revise (e := { e with phase := target, reason }) here))

/-- A setup of an entry that is not loaded. -/
theorem tries_setUpNow (only : (turnedAt r heard).Only id e.persisted s.toCatalog)
    (here : e.id = id) :
    (setUpNow id).run.Ensures (undisturbed own) (tries r id e) heard s := by
  rw [setUpNow, Job.ensures_run_get_bind, only.here]
  dsimp only
  split
  · rename_i disabled
    exact ⟨.inl rfl, _, .disabled disabled, only⟩
  rename_i enabled
  have enabled : e.isDisabled = false := eq_false_of_ne_true enabled
  refine ensures_enter_only only here rfl fun t only => ?_
  have loads {heard : List (Heard Registry .hosting)} {t : Registry}
      (only : (turnedAt r heard).Only id { e with phase := .setupInProgress, reason := none }
        t.toCatalog) :
      (enter id .loaded none).run.Ensures (undisturbed own) (tries r id e) heard t := by
    rw [← bind_pure (enter id .loaded none)]
    exact ensures_enter_only only here rfl fun u only => ⟨.inl rfl, _, .loaded enabled, only⟩
  change (if e.domain ∈ t.handled then _ else _ : Action Unit).run.Ensures (undisturbed own) _ _ t
  split
  · rintro verdict u ⟨rfl, calm⟩
    rw [← turnedAt_asked r heard e.persisted verdict u] at only
    cases verdict with
    | ready => exact loads only
    | failed reason =>
      exact ensures_enter_only only here rfl fun u only =>
        ⟨.inr ⟨reason, rfl⟩, _, .failed enabled reason, only⟩
    | crashed x => exact absurd rfl (calm x)
  · exact loads only

/-- A call on an entry of its own comes to what it comes to in its turn. -/
theorem tries_inTurn {a : Action Unit} {e' : Entry} (held : r.get? id = some e) (mine : own e)
    (acts : ∀ heard s, (turnedAt r heard).Only id e s.toCatalog →
      a.run.Ensures (undisturbed own) (tries r id e') heard s) :
    (inTurn a).run.Ensures (undisturbed own) (tries r id e') [] r := by
  refine ensures_inTurn fun heard s reached => ⟨trivial, ?_⟩
  have only : (turnedAt r heard).Only id e s.toCatalog := by
    rcases reached with ⟨_, rfl, rfl⟩ | ⟨_, stays, rfl⟩
    · exact ⟨held, fun _ _ => rfl⟩
    · exact ⟨stays id e held mine, fun _ _ => rfl⟩
  refine Job.ensures_imp (fun _ ended _ tried => ⟨trivial, ?_⟩)
    (acts heard { s with settingUp := true } only)
  cases ended <;> exact tried

theorem tries_setUp (held : r.get? id = some e.persisted) (mine : own e.persisted)
    (here : e.id = id) :
    (setUp id).run.Ensures (undisturbed own) (tries r id e) [] r :=
  tries_inTurn held mine fun _ _ only => tries_setUpNow only here

theorem tries_reload (held : r.get? id = some e) (mine : own e) (here : e.id = id)
    (settled : e.phase.settled = true) :
    (reload id).run.Ensures (undisturbed own) (tries r id e) [] r := by
  have unloads : e.phase.leadsTo .unloadInProgress = true := by
    revert settled
    cases e.phase <;> decide
  refine tries_inTurn held mine fun heard s only => ?_
  rw [unloadNow, bind_assoc]
  refine ensures_enter_only only here unloads fun t only => ?_
  exact ensures_enter_only only here rfl fun u only => tries_setUpNow only here

end Action

end Registry

end Onboarding
