import Mathlib.Data.List.InsertIdx
import Onboarding.Proofs.Job.Discipline
import Onboarding.Proofs.Job.Chronicle

/-! Replies that no job heeds. Two chronicles of the same events, but for such replies, agree in all
but what was heard. -/
namespace Onboarding

variable {κ σ : Type} {F : Signature} {α : Type}

def Pending.muted (w : Pending κ σ F α) : Pending κ σ F α := { w with heard := [] }

def Deed.muted (d : Deed κ σ F) : Deed κ σ F := { d with heard := [] }

def Ended.muted (e : Ended κ σ F α) : Ended κ σ F α := { e with heard := [] }

namespace Chronicle

/-- The chronicles agree in all but what was heard. -/
structure Agree (c c' : Chronicle κ σ F α) : Prop where
  state : c.state = c'.state
  past : c.past = c'.past
  begun : c.begun = c'.begun
  pending : c.pending.map Pending.muted = c'.pending.map Pending.muted
  deeds : c.deeds.map Deed.muted = c'.deeds.map Deed.muted
  ended : c.ended.map Ended.muted = c'.ended.map Ended.muted

variable {c c' : Chronicle κ σ F α} {deaf : F.Request → Prop}

theorem Agree.refl (c : Chronicle κ σ F α) : Agree c c := ⟨rfl, rfl, rfl, rfl, rfl, rfl⟩

theorem Agree.put (agree : Agree c c') {s s' : σ} (same : s = s') : Agree (c.put s) (c'.put s') where
  state := same
  past := List.cons_eq_cons.mpr ⟨agree.state, agree.past⟩
  begun := agree.begun
  pending := agree.pending
  deeds := agree.deeds
  ended := agree.ended

theorem Agree.follow (agree : Agree c c') (p : Party κ) (heard heard' : List (Heard σ F))
    (j : Job σ F α) : Agree (follow p heard j c) (follow p heard' j c') := by
  induction j generalizing c c' with
  | done a =>
    refine { agree with ended := ?_ }
    exact List.cons_eq_cons.mpr ⟨congrArg (Ended.mk p [] (.ok a)) agree.state, agree.ended⟩
  | crash x =>
    refine { agree with ended := ?_ }
    exact List.cons_eq_cons.mpr ⟨congrArg (Ended.mk p [] (.error x)) agree.state, agree.ended⟩
  | ask q next ih =>
    match q with
    | .read =>
      have read := ih c.state agree
      change Agree (Chronicle.follow p heard (next c.state) c)
        (Chronicle.follow p heard' (next c'.state) c')
      rw [← agree.state]
      exact read
    | .write s =>
      refine ih () { agree.put rfl with deeds := ?_ }
      exact List.cons_eq_cons.mpr ⟨congrArg (Deed.mk p [] · s) agree.state, agree.deeds⟩
    | .outside q =>
      have waits : Pending.mk p [] c.state q next = Pending.mk p [] c'.state q next := by
        rw [agree.state]
      refine { agree with pending := ?_ }
      change (c.pending ++ _).map _ = (c'.pending ++ _).map _
      rw [List.map_append, List.map_append, agree.pending]
      exact congrArg (fun w => _ ++ [w]) waits

theorem Agree.start (agree : Agree c c') (agent : κ) (j : Job σ F α) :
    Agree (c.start agent j) (c'.start agent j) := by
  have begun : Agree { c with begun := c.begun + 1 } { c' with begun := c'.begun + 1 } :=
    { agree with begun := congrArg (· + 1) agree.begun }
  have follows := begun.follow ⟨c.begun, agent⟩ [] [] j
  unfold Chronicle.start
  rw [← agree.begun] at follows ⊢
  exact follows

/-- Whatever is replied to it, a job that waits goes on without heeding the replies to `deaf`. -/
def Unheeding (deaf : F.Request → Prop) (c : Chronicle κ σ F α) : Prop :=
  ∀ w ∈ c.pending, (Prog.ask (.outside w.request) w.next : Job σ F α).Abides
    (.heedless (Demand.Among deaf))

theorem Unheeding.follow (unheeding : Unheeding deaf c) (p : Party κ) (heard : List (Heard σ F))
    {j : Job σ F α} (heedless : j.Abides (.heedless (Demand.Among deaf))) :
    Unheeding deaf (follow p heard j c) := by
  induction j generalizing c with
  | done a => exact unheeding
  | crash x => exact unheeding
  | ask q next ih =>
    match q with
    | .read => exact ih c.state unheeding (heedless.2 c.state)
    | .write s => exact ih () unheeding (heedless.2 ())
    | .outside q => exact forall_concat unheeding heedless

theorem Unheeding.start (unheeding : Unheeding deaf c) (agent : κ) {j : Job σ F α}
    (heedless : j.Abides (.heedless (Demand.Among deaf))) : Unheeding deaf (c.start agent j) := by
  have begun : Unheeding deaf { c with begun := c.begun + 1 } := unheeding
  exact begun.follow _ _ heedless

/-- What is replied to a request, if that is heeded, and otherwise only whether. -/
def Alike (deaf : F.Request → Prop) (say say' : ∀ q : F.Request, Option (F.Reply q)) : Prop :=
  ∀ q, (say q).isSome = (say' q).isSome ∧ (¬ deaf q → say q = say' q)

theorem Pending.muted_inj {w w' : Pending κ σ F α} (same : w.muted = w'.muted) :
    ∃ heard, w' = { w with heard } := by
  cases w
  cases w'
  cases same
  exact ⟨_, rfl⟩

theorem Unheeding.reply (unheeding : Unheeding deaf c) (place : Nat)
    (say : ∀ q : F.Request, Option (F.Reply q)) : Unheeding deaf (c.reply place say) := by
  rcases c.reply_cases place say with same | ⟨w, answer, found, _, same⟩ <;> rw [same]
  · exact unheeding
  have others : Unheeding deaf { c with pending := c.pending.eraseIdx place } := fun v member =>
    unheeding v (List.mem_of_mem_eraseIdx member)
  exact others.follow _ _ ((unheeding w (List.mem_of_getElem? found)).2 answer)

/-- Chronicles that agree do so still after a reply that nobody heeds. -/
theorem Agree.reply (agree : Agree c c') (unheeding : Unheeding deaf c) (place : Nat)
    {say say' : ∀ q : F.Request, Option (F.Reply q)} (alike : Alike deaf say say') :
    Agree (c.reply place say) (c'.reply place say') := by
  have waits : (c.pending[place]?).map Pending.muted = (c'.pending[place]?).map Pending.muted := by
    rw [← List.getElem?_map, agree.pending, List.getElem?_map]
  unfold Chronicle.reply
  cases found : c.pending[place]? with
  | none =>
    rw [found] at waits
    rw [Option.map_eq_none_iff.mp waits.symm]
    exact agree
  | some w =>
    rw [found] at waits
    obtain ⟨w', there, same⟩ := Option.map_eq_some_iff.mp waits.symm
    rw [there]
    obtain ⟨heard, rfl⟩ := Pending.muted_inj same.symm
    have left : Agree { c with pending := c.pending.eraseIdx place }
        { c' with pending := c'.pending.eraseIdx place } := by
      refine { agree with pending := ?_ }
      rw [← List.eraseIdx_map, agree.pending, List.eraseIdx_map]
    obtain ⟨constant, goesOn⟩ := unheeding w (List.mem_of_getElem? found)
    obtain ⟨answered, equal⟩ := alike w.request
    match said : say w.request, said' : say' w.request with
    | none, none =>
      simp only [said, said']
      exact agree
    | none, some r' =>
      rw [said, said'] at answered
      cases answered
    | some r, none =>
      rw [said, said'] at answered
      cases answered
    | some r, some r' =>
      have same : w.next r = w.next r' := by
        by_cases silent : deaf w.request
        · exact constant silent r r'
        · exact congrArg w.next (Option.some.inj (said.symm.trans ((equal silent).trans said')))
      simp only [said, said', same]
      exact left.follow _ _ _ _

end Chronicle

end Onboarding
