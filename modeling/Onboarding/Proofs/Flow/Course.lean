import Onboarding.Proofs.Flow.Moves

/-! Courses of events around a desk: calls on its flows, changes and errands of its registry, and
the replies of the outside, in whatever order they come in. -/
namespace Onboarding.Desk

variable {H : Type} {F : Signature} {α : Type}

inductive Call where
  | start (handler : String) (source : Source) (data : Option Data)
  | startReauth (entryId : String)
  | startOptions (entryId : String)
  | submit (id : String) (input : Data)

def Call.action (steps : Steps H F) : Call → Action H F FlowResult
  | start handler source data => Action.startConfig steps handler source data
  | startReauth entryId => Action.startReauth steps entryId
  | startOptions entryId => Action.startOptions steps entryId
  | submit id input => Action.submit steps id input

theorem Call.moves (steps : Steps H F) (c : Call) : (c.action steps).Moves := by
  intro d orderly
  have opens := Action.opens_moves steps orderly
  have fails (_ : FlowError) : True := trivial
  cases c with
  | start handler source data => exact Job.keeps_of_ensures (Action.ensures_startConfig fails opens)
  | startReauth entryId => exact Job.keeps_of_ensures (Action.ensures_startReauth fails opens)
  | startOptions entryId => exact Job.keeps_of_ensures (Action.ensures_startOptions fails opens)
  | submit id input =>
    have ensures : (Action.submit steps id input).run.Ensures (.keeping Orderly Move)
        (Action.naming Orderly id) [] d := Action.naming_submit closed_move steps id input orderly
    exact Job.keeps_of_ensures ensures

inductive Event (H : Type) (F : Signature) where
  | change (c : Registry.Change)
  | errand (e : Registry.Errand)
  | call (c : Call)
  | abort (id : String)
  /-- An id is drawn for an entry that no flow makes. -/
  | issue
  | integrate (domain : String) (i : Integration H)
  | time (now : Instant)
  /-- The job in a given place among those that wait has its reply or its turn. -/
  | reply (place : Nat) (say : ∀ q : Calling F, Option q.Reply)

/-- A desk with its past and with the calls and errands that wait. -/
abbrev Course (H : Type) (F : Signature) := Floor (Desk H) (.desk F)

def changed (d : Desk H) (c : Registry.Change) : Desk H :=
  { d with registry := c.apply d.registry }

namespace Course

variable (steps : Steps H F)

def happen (f : Course H F) : Event H F → Course H F
  | .change c => f.put (f.state.changed c)
  | .errand e => f.run (Work.host e.action >>= fun _ => pure ())
  | .call c => f.run ((c.action steps).run >>= fun _ => pure ())
  | .abort id => f.put (f.state.abort id).1
  | .issue => f.put f.state.issue.2
  | .integrate domain i =>
    f.put { f.state with integrations := f.state.integrations.insert domain i }
  | .time now => f.put { f.state with now }
  | .reply place say => f.reply place say

def after (f : Course H F) (events : List (Event H F)) : Course H F := events.foldl (happen steps) f

theorem seen_happen (f : Course H F) (event : Event H F) :
    f.seen <:+ (happen steps f event).seen := by
  cases event with
  | errand e => exact f.seen_run _
  | call c => exact f.seen_run _
  | reply place say => exact f.seen_reply place say
  | _ => exact f.seen_put _

theorem seen_after (f : Course H F) (events : List (Event H F)) :
    f.seen <:+ (f.after steps events).seen :=
  foldl_induction (motive := fun g _ => f.seen <:+ g.seen) (List.suffix_refl _)
    fun g event _ seen => seen.trans (seen_happen steps g event)

/-- Every change on the way meets a condition on the desk that it is done to. -/
def Throughout (A : Desk H → Registry.Change → Prop) : Course H F → List (Event H F) → Prop
  | _, [] => True
  | f, event :: events =>
    (∀ c, event = .change c → A f.state c) ∧ Throughout A (happen steps f event) events

/-- A desk without a file, before anything was registered. -/
def opened (handled : Std.ExtTreeSet String) (now : Instant) : Course H F where
  state := { registry := Registry.onDisk {} handled, now }

end Course

/-- What changes under a condition, all writes of the calls and errands keep, moving by `T`. -/
structure Invariant (Q : Desk H → Prop) (T : Desk H → Desk H → Prop)
    (A : Desk H → Registry.Change → Prop) : Prop where
  orderly : ∀ d, Q d → d.Orderly
  move : ∀ d t, Q d → Move d t → Q t ∧ T d t
  change : ∀ d c, Q d → A d c → Q (d.changed c) ∧ T d (d.changed c)

namespace Invariant

variable {Q : Desk H → Prop} {T : Desk H → Desk H → Prop} {A : Desk H → Registry.Change → Prop}
  {steps : Steps H F} {f : Course H F}

theorem put (inv : Invariant Q T A) (keeps : f.Keeps Q T) {d : Desk H} (moved : Move f.state d) :
    (f.put d).Keeps Q T := by
  obtain ⟨kept, step⟩ := inv.move f.state d keeps.state moved
  exact keeps.put kept step

theorem run (inv : Invariant Q T A) (keeps : f.Keeps Q T) {w : Work H F α} (moves : w.Moves) :
    (f.run (w >>= fun _ => pure ())).Keeps Q T := by
  have job := Job.always_bind moves fun _ => Job.always_pure ()
  exact keeps.run (Job.keeps_moves inv.orderly inv.move keeps.state
    (job f.state (inv.orderly _ keeps.state)))

theorem happen (inv : Invariant Q T A) (keeps : f.Keeps Q T) {event : Event H F}
    (allowed : ∀ c, event = .change c → A f.state c) : (f.happen steps event).Keeps Q T := by
  cases event with
  | change c =>
    obtain ⟨kept, step⟩ := inv.change f.state c keeps.state (allowed c rfl)
    exact keeps.put kept step
  | errand e => exact inv.run keeps (Work.moves_host e.cycles)
  | call c => exact inv.run keeps (c.moves steps)
  | abort id =>
    refine inv.put keeps ?_
    unfold abort
    split <;> exact .aside rfl rfl
  | issue => exact inv.put keeps (.issue _)
  | integrate domain i => exact inv.put keeps (.aside rfl rfl)
  | time now => exact inv.put keeps (.aside rfl rfl)
  | reply place say => exact keeps.reply place say

theorem after (inv : Invariant Q T A) (keeps : f.Keeps Q T) {events : List (Event H F)}
    (allowed : Course.Throughout steps A f events) : (f.after steps events).Keeps Q T :=
  (foldl_induction
    (motive := fun (g : Course H F) later => g.Keeps Q T ∧ Course.Throughout steps A g later)
    ⟨keeps, allowed⟩ fun _ _ _ ⟨keeps, allowed⟩ => ⟨inv.happen keeps allowed.1, allowed.2⟩).1

end Invariant

end Onboarding.Desk
