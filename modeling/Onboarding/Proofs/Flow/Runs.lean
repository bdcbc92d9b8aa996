import Onboarding.Proofs.Flow.Record
import Onboarding.Proofs.Job.Tracks

/-! Runs of events at a desk, one part after the other. The moments of a part are those of the whole,
and what one job has been doing is kept in sight while the others come and go. -/
namespace Onboarding.Desk.Record

open Chronicle

variable {H : Type} {F : Signature} {steps : Steps H F} {c : Record H F}

theorem after_append (c : Record H F) (events later : List (Event H F)) :
    c.after steps (events ++ later) = (c.after steps events).after steps later :=
  List.foldl_append

theorem seen_happen (steps : Steps H F) (c : Record H F) (event : Event H F) :
    c.seen <:+ (c.happen steps event).seen := by
  cases event with
  | errand e => exact c.seen_start none (errandJob e)
  | call call => exact c.seen_start _ (call.job steps)
  | reply place say => exact c.seen_reply place say
  | _ => exact List.suffix_cons ..

theorem seen_after (steps : Steps H F) (c : Record H F) (events : List (Event H F)) :
    c.seen <:+ (c.after steps events).seen :=
  foldl_induction (motive := fun v _ => c.seen <:+ v.seen) (List.suffix_refl _)
    fun v event _ seen => seen.trans (seen_happen steps v event)

theorem begun_happen (steps : Steps H F) (c : Record H F) (event : Event H F) :
    c.begun ≤ (c.happen steps event).begun := by
  cases event with
  | errand e =>
    rw [happen, c.begun_start]
    exact Nat.le_succ _
  | call call =>
    rw [happen, c.begun_start]
    exact Nat.le_succ _
  | reply place say => exact Nat.le_of_eq (c.begun_reply place say).symm
  | _ => exact Nat.le_refl _

theorem counted_happen (counted : c.Counted) (event : Event H F) :
    (c.happen steps event).Counted := by
  cases event with
  | errand e => exact counted.start none (errandJob e)
  | call call => exact counted.start _ (call.job steps)
  | reply place say => exact counted.reply place say
  | _ => exact ⟨counted.pending, counted.deeds, counted.ended⟩

theorem counted_after (counted : c.Counted) (events : List (Event H F)) :
    (c.after steps events).Counted :=
  foldl_induction (motive := fun (v : Record H F) _ => v.Counted) counted
    fun _ event _ counted => counted_happen counted event

theorem counted_opened (handled : Std.ExtTreeSet String) (now : Instant) :
    (opened (H := H) (F := F) handled now).Counted :=
  ⟨by rintro w ⟨⟩, by rintro d ⟨⟩, by rintro e ⟨⟩⟩

variable {n : Nat} {π : Protocol (Desk H) (.desk F)} {post : Post (Desk H) (.desk F) Answer}

/-- A call is tracked from its first moment on. -/
theorem tracks_call (counted : c.Counted) {call : Call}
    (obeys : (call.job steps).Obeys π post [] c.state) :
    Tracks c.begun π post (c.happen steps (.call call)) :=
  (Tracks.new counted).start _ fun _ => obeys

/-- A job is tracked through whatever happens, if it may be told what it is told. -/
theorem tracks_happen (old : n < c.begun) (tracks : Tracks n π post c) {event : Event H F}
    (finds : ∀ place say, event = .reply place say → ∀ w ∈ c.pending, ∀ r,
      say w.request = some r → π.finds w.request r w.since c.state) :
    Tracks n π post (c.happen steps event) := by
  have other {j : Work H F Answer} (same : c.begun = n) : j.Obeys π post [] c.state :=
    absurd old (same ▸ Nat.lt_irrefl _)
  cases event with
  | errand e => exact tracks.start none other
  | call call => exact tracks.start _ other
  | reply place say =>
    exact tracks.reply place say fun w member r said => finds place say rfl w member r said
  | _ => exact ⟨tracks.pending, tracks.deeds, tracks.ended⟩

/-- A job that relies on nothing is tracked throughout. -/
theorem tracks_after (steps : Steps H F) (finds : ∀ q r s t, π.finds q r s t) (old : n < c.begun)
    (tracks : Tracks n π post c) (events : List (Event H F)) :
    Tracks n π post (c.after steps events) := by
  refine (foldl_induction
    (motive := fun (v : Record H F) _ => n < v.begun ∧ Tracks n π post v)
    ⟨old, tracks⟩ fun v event _ ⟨old, tracks⟩ => ?_).2
  exact ⟨Nat.lt_of_lt_of_le old (begun_happen steps v event),
    tracks_happen old tracks fun _ _ _ w _ r _ => finds _ r _ _⟩

/-- A job that relies on what a contract keeps is tracked as long as the contract is served. -/
theorem tracks_served {K : Contract (Option String) (Desk H) (.desk F) Answer}
    {A : Desk H → Event H F → Prop} (serves : Serves steps K A)
    (finds : ∀ q r s t, K.hears q r → K.holds t → K.later s t → π.finds q r s t)
    (honours : c.Honours K) (old : n < c.begun) (tracks : Tracks n π post c)
    {events : List (Event H F)} (allowed : Throughout steps A c events) :
    Tracks n π post (c.after steps events) := by
  refine (foldl_induction
    (motive := fun (v : Record H F) later => (n < v.begun ∧ Tracks n π post v) ∧ v.Honours K ∧
      Throughout steps A v later)
    ⟨⟨old, tracks⟩, honours, allowed⟩
    fun v event later ⟨⟨old, tracks⟩, honours, allowed⟩ => ?_).1.2
  have tracked : Tracks n π post (v.happen steps event) := by
    refine tracks_happen old tracks fun place say same w member r said => ?_
    subst same
    exact finds _ r _ _ (serves.reply allowed.1 _ r said) honours.state (honours.since w member)
  exact ⟨⟨Nat.lt_of_lt_of_le old (begun_happen steps v event), tracked⟩,
    serves.happen honours allowed.1, allowed.2⟩

end Onboarding.Desk.Record
