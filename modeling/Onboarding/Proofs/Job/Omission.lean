import Mathlib.Data.List.InsertIdx
import Onboarding.Proofs.Job.Tracks

/-! Chronicles without some of their jobs. A job can be left out if it leaves the state as it found
it; the others are then recorded as if it had never been started, only with lower numbers. -/
namespace Onboarding

section Filter

variable {α : Type} {l : List α} {p : α → Bool} {i : Nat} {a : α}

theorem filter_split (found : l[i]? = some a) (passes : p a = true) :
    l.filter p = (l.take i).filter p ++ a :: (l.drop (i + 1)).filter p := by
  obtain ⟨bound, rfl⟩ := List.getElem?_eq_some_iff.mp found
  rw [← List.filter_cons_of_pos passes, ← List.filter_append, List.getElem_cons_drop,
    List.take_append_drop]

/-- An item that passes is found behind those before it that pass. -/
theorem getElem?_filter (found : l[i]? = some a) (passes : p a = true) :
    (l.filter p)[(l.take i).countP p]? = some a := by
  rw [filter_split found passes, List.countP_eq_length_filter,
    List.getElem?_append_right (Nat.le_refl _), Nat.sub_self]
  rfl

theorem filter_eraseIdx (found : l[i]? = some a) (passes : p a = true) :
    (l.eraseIdx i).filter p = (l.filter p).eraseIdx ((l.take i).countP p) := by
  rw [filter_split found passes, List.countP_eq_length_filter,
    List.eraseIdx_append_of_length_le (Nat.le_refl _), Nat.sub_self,
    List.eraseIdx_eq_take_drop_succ, List.filter_append]
  rfl

theorem filter_eraseIdx_of_not (found : l[i]? = some a) (fails : p a = false) :
    (l.eraseIdx i).filter p = l.filter p := by
  obtain ⟨before, after, all, rest⟩ := exists_eraseIdx found
  rw [rest, all, List.filter_append, List.filter_append,
    List.filter_cons_of_neg (by simp [fails])]

end Filter

variable {κ σ : Type} {F : Signature} {α : Type} {out : Nat → Bool}

/-- How many of the first numbers are left when some are out. -/
def rank (out : Nat → Bool) (n : Nat) : Nat := (List.range n).countP fun m => !out m

theorem rank_succ (kept : out n = false) : rank out (n + 1) = rank out n + 1 := by
  simp [rank, List.range_succ, kept]

theorem rank_succ_of_out (omitted : out n = true) : rank out (n + 1) = rank out n := by
  simp [rank, List.range_succ, omitted]

/-- The party with its number among those that are left. -/
def Party.renumber (out : Nat → Bool) (p : Party κ) : Party κ :=
  { p with number := rank out p.number }

def Pending.renumber (out : Nat → Bool) (w : Pending κ σ F α) : Pending κ σ F α :=
  { w with party := w.party.renumber out }

def Deed.renumber (out : Nat → Bool) (d : Deed κ σ F) : Deed κ σ F :=
  { d with party := d.party.renumber out }

def Ended.renumber (out : Nat → Bool) (e : Ended κ σ F α) : Ended κ σ F α :=
  { e with party := e.party.renumber out }

namespace Chronicle

variable {c c' : Chronicle κ σ F α} {p : Party κ} {heard : List (Heard σ F)}

/-- The second chronicle is the first one without the jobs whose numbers are out. -/
structure Without (out : Nat → Bool) (c c' : Chronicle κ σ F α) : Prop where
  state : c'.state = c.state
  past : c'.past.Sublist c.past
  begun : c'.begun = rank out c.begun
  pending : c'.pending =
    (c.pending.filter fun w => !out w.party.number).map (Pending.renumber out)
  deeds : c'.deeds = (c.deeds.filter fun d => !out d.party.number).map (Deed.renumber out)
  ended : c'.ended = (c.ended.filter fun e => !out e.party.number).map (Ended.renumber out)

namespace Without

theorem new (s : σ) : Without out ({ state := s } : Chronicle κ σ F α) { state := s } :=
  ⟨rfl, .refl _, rfl, rfl, rfl, rfl⟩

theorem put (without : Without out c c') (s : σ) : Without out (c.put s) (c'.put s) where
  state := rfl
  past := by
    change (c'.state :: c'.past).Sublist (c.state :: c.past)
    rw [without.state]
    exact without.past.cons_cons c.state
  begun := without.begun
  pending := without.pending
  deeds := without.deeds
  ended := without.ended

theorem deed (without : Without out c c') (d : Deed κ σ F) (kept : out d.party.number = false) :
    Without out { c with deeds := d :: c.deeds }
      { c' with deeds := d.renumber out :: c'.deeds } := by
  refine { without with deeds := ?_ }
  rw [List.filter_cons_of_pos (by simp [kept]), List.map_cons, ← without.deeds]

theorem await (without : Without out c c') (w : Pending κ σ F α)
    (kept : out w.party.number = false) : Without out (c.await w) (c'.await (w.renumber out)) := by
  refine { without with pending := ?_ }
  change c'.pending ++ _ = (List.filter _ (c.pending ++ [w])).map _
  rw [List.filter_append, List.filter_cons_of_pos (by simp [kept]), List.map_append,
    ← without.pending]
  rfl

theorem close (without : Without out c c') (e : Ended κ σ F α)
    (kept : out e.party.number = false) : Without out (c.close e) (c'.close (e.renumber out)) := by
  refine { without with ended := ?_ }
  change _ :: c'.ended = (List.filter _ (e :: c.ended)).map _
  rw [List.filter_cons_of_pos (by simp [kept]), List.map_cons, ← without.ended]

/-- A job that is left goes on in both chronicles alike. -/
theorem follow (without : Without out c c') (kept : out p.number = false)
    (heard : List (Heard σ F)) (j : Job σ F α) :
    Without out (follow p heard j c) (follow (p.renumber out) heard j c') := by
  induction j generalizing c c' with
  | done a =>
    change Without out (c.close ⟨p, heard, .ok a, c.state⟩)
      (c'.close ⟨p.renumber out, heard, .ok a, c'.state⟩)
    rw [without.state]
    exact without.close ⟨p, heard, .ok a, c.state⟩ kept
  | crash x =>
    change Without out (c.close ⟨p, heard, .error x, c.state⟩)
      (c'.close ⟨p.renumber out, heard, .error x, c'.state⟩)
    rw [without.state]
    exact without.close ⟨p, heard, .error x, c.state⟩ kept
  | ask q next ih =>
    match q with
    | .read =>
      change Without out (Chronicle.follow p heard (next c.state) c)
        (Chronicle.follow (p.renumber out) heard (next c'.state) c')
      rw [without.state]
      exact ih c.state without
    | .write s =>
      apply ih ()
      change Without out { c.put s with deeds := ⟨p, heard, c.state, s⟩ :: c.deeds }
        { c'.put s with deeds := ⟨p.renumber out, heard, c'.state, s⟩ :: c'.deeds }
      rw [without.state]
      exact (without.put s).deed ⟨p, heard, c.state, s⟩ kept
    | .outside q =>
      change Without out (c.await ⟨p, heard, c.state, q, next⟩)
        (c'.await ⟨p.renumber out, heard, c'.state, q, next⟩)
      rw [without.state]
      exact without.await ⟨p, heard, c.state, q, next⟩ kept

theorem start (without : Without out c c') (kept : out c.begun = false) (agent : κ)
    (j : Job σ F α) : Without out (c.start agent j) (c'.start agent j) := by
  have begun : Without out { c with begun := c.begun + 1 } { c' with begun := c'.begun + 1 } :=
    { without with begun := by rw [without.begun, rank_succ kept] }
  have follows := begun.follow (p := ⟨c.begun, agent⟩) kept [] j
  rw [Party.renumber, ← without.begun] at follows
  exact follows

end Without

/-- The place of a job among those that are left. -/
def placeLeft (out : Nat → Bool) (c : Chronicle κ σ F α) (place : Nat) : Nat :=
  (c.pending.take place).countP fun w => !out w.party.number

namespace Without

/-- A job that is left waits in both chronicles. -/
theorem waiting (without : Without out c c') {place : Nat}
    (kept : ∀ w, c.pending[place]? = some w → out w.party.number = false) :
    c'.pending[c.placeLeft out place]? = (c.pending[place]?).map (Pending.renumber out) := by
  rw [without.pending, List.getElem?_map, placeLeft]
  cases found : c.pending[place]? with
  | none =>
    have all : c.pending.take place = c.pending :=
      List.take_of_length_le (List.getElem?_eq_none_iff.mp found)
    simp [all, List.countP_eq_length_filter]
  | some w => rw [getElem?_filter found (by simp [kept w found])]

theorem reply (without : Without out c c') (place : Nat)
    (kept : ∀ w, c.pending[place]? = some w → out w.party.number = false)
    (say : ∀ q : F.Request, Option (F.Reply q)) :
    Without out (c.reply place say) (c'.reply (c.placeLeft out place) say) := by
  have waits := without.waiting kept
  cases found : c.pending[place]? with
  | none =>
    rw [found] at waits
    simp only [Chronicle.reply, found, waits]
    exact without
  | some w =>
    rw [found] at waits
    have left : Without out { c with pending := c.pending.eraseIdx place }
        { c' with pending := c'.pending.eraseIdx (c.placeLeft out place) } := by
      refine { without with pending := ?_ }
      rw [filter_eraseIdx found (by simp [kept w found]), without.pending, List.eraseIdx_map]
      rfl
    cases said : say w.request with
    | none =>
      rw [reply_unsaid found said, reply_unsaid waits said]
      exact without
    | some answer =>
      have same : (⟨w.request, answer, c'.state⟩ : Heard σ F) = ⟨w.request, answer, c.state⟩ := by
        rw [without.state]
      rw [reply_eq found said, reply_eq waits said]
      change Without out _ (Chronicle.follow (w.party.renumber out)
        (w.heard ++ [⟨w.request, answer, c'.state⟩]) (w.next answer) _)
      rw [same]
      exact left.follow (kept w found) _ _

/-! Where a job is left out, the second chronicle stays as it is. -/

theorem put_self (without : Without out c c') : Without out (c.put c.state) c' :=
  { without with past := without.past.cons c.state }

/-- A job that is left out is to leave the state as it was. -/
theorem follow_out (without : Without out c c') (omitted : out p.number = true)
    {heard : List (Heard σ F)} {j : Job σ F α}
    (same : (Chronicle.follow p heard j c).state = c.state) :
    Without out (Chronicle.follow p heard j c) c' := by
  -- whatever the state is meanwhile, the other parts are those of the second chronicle
  have parts (s : σ) (first : Without out { c with state := s } c') :
      Without out { Chronicle.follow p heard j c with state := s } c' := by
    refine follow_keeps (p := p) (I := fun v => Without out { v with state := s } c')
      (P := fun v => Without out { v with state := s } c') heard j first (fun v t first => ?_)
      (fun v w first same => ?_) fun v e first same => ?_
    · refine { first with past := first.past.cons v.state, deeds := ?_ }
      change c'.deeds = (List.filter _ (_ :: v.deeds)).map _
      rw [List.filter_cons_of_neg (by simp [omitted])]
      exact first.deeds
    · refine { first with pending := ?_ }
      change c'.pending = (List.filter _ (v.pending ++ [w])).map _
      rw [List.filter_append, List.filter_cons_of_neg (by simp [same, omitted]), List.filter_nil,
        List.append_nil]
      exact first.pending
    · refine { first with ended := ?_ }
      change c'.ended = (List.filter _ (e :: v.ended)).map _
      rw [List.filter_cons_of_neg (by simp [same, omitted])]
      exact first.ended
  have whole := parts c.state without
  rw [← same] at whole
  exact whole

theorem start_out (without : Without out c c') (omitted : out c.begun = true) {agent : κ}
    {j : Job σ F α} (same : (c.start agent j).state = c.state) :
    Without out (c.start agent j) c' := by
  have begun : Without out { c with begun := c.begun + 1 } c' :=
    { without with begun := by rw [without.begun, rank_succ_of_out omitted] }
  exact begun.follow_out (p := ⟨c.begun, agent⟩) omitted same

theorem reply_out (without : Without out c c') {place : Nat} {w : Pending κ σ F α}
    (found : c.pending[place]? = some w) (omitted : out w.party.number = true)
    {say : ∀ q : F.Request, Option (F.Reply q)} (same : (c.reply place say).state = c.state) :
    Without out (c.reply place say) c' := by
  have left : Without out { c with pending := c.pending.eraseIdx place } c' := by
    refine { without with pending := ?_ }
    rw [filter_eraseIdx_of_not found (by simp [omitted])]
    exact without.pending
  cases said : say w.request with
  | none =>
    rw [reply_unsaid found said]
    exact without
  | some answer =>
    rw [reply_eq found said] at same ⊢
    exact left.follow_out omitted same

end Without

/-! No two jobs of one number. -/

/-- A job that waits has not ended, and no other one that waits has its number. -/
structure Distinct (c : Chronicle κ σ F α) : Prop where
  pending : c.pending.Pairwise fun w v => w.party.number ≠ v.party.number
  ended : ∀ w ∈ c.pending, ∀ e ∈ c.ended, e.party.number ≠ w.party.number

/-- Nothing is on record that waits under the number, or has ended. -/
structure Unused (n : Nat) (c : Chronicle κ σ F α) : Prop where
  pending : ∀ w ∈ c.pending, w.party.number ≠ n
  ended : ∀ e ∈ c.ended, e.party.number ≠ n

namespace Distinct

theorem follow (distinct : c.Distinct) (unused : c.Unused p.number) (heard : List (Heard σ F))
    (j : Job σ F α) : (follow p heard j c).Distinct := by
  refine follow_keeps (I := fun v => v.Distinct ∧ v.Unused p.number) (P := Distinct) heard j
    ⟨distinct, unused⟩ (fun v s ⟨distinct, unused⟩ => ?_) (fun v w ⟨distinct, unused⟩ same => ?_)
    fun v e ⟨distinct, unused⟩ same => ?_
  · exact ⟨⟨distinct.pending, distinct.ended⟩, unused.pending, unused.ended⟩
  · rw [← same] at unused
    exact ⟨pairwise_concat distinct.pending unused.pending,
      forall_concat distinct.ended unused.ended⟩
  · rw [← same] at unused
    refine ⟨distinct.pending, fun w member => List.forall_mem_cons.mpr ⟨?_, ?_⟩⟩
    · exact (unused.pending w member).symm
    · exact distinct.ended w member

theorem start (distinct : c.Distinct) (counted : c.Counted) (agent : κ) (j : Job σ F α) :
    (c.start agent j).Distinct := by
  have fresh : Unused c.begun c :=
    ⟨fun w member => Nat.ne_of_lt (counted.pending w member),
      fun e member => Nat.ne_of_lt (counted.ended e member)⟩
  exact follow (c := { c with begun := c.begun + 1 }) (p := ⟨c.begun, agent⟩)
    ⟨distinct.pending, distinct.ended⟩ ⟨fresh.pending, fresh.ended⟩ [] j

/-- A job that leaves its place is found nowhere else. -/
theorem leave (distinct : c.Distinct) {place : Nat} {w : Pending κ σ F α}
    (found : c.pending[place]? = some w) :
    Distinct { c with pending := c.pending.eraseIdx place } ∧
      Unused w.party.number { c with pending := c.pending.eraseIdx place } := by
  refine ⟨⟨distinct.pending.sublist (List.eraseIdx_sublist ..), fun v member =>
    distinct.ended v (List.mem_of_mem_eraseIdx member)⟩, fun v member => ?_,
    distinct.ended w (List.mem_of_getElem? found)⟩
  rcases pairwise_eraseIdx distinct.pending found member with apart | apart
  · exact apart.symm
  · exact apart

theorem reply (distinct : c.Distinct) (place : Nat) (say : ∀ q : F.Request, Option (F.Reply q)) :
    (c.reply place say).Distinct := by
  rcases c.reply_cases place say with same | ⟨w, answer, found, _, same⟩ <;> rw [same]
  · exact distinct
  · obtain ⟨others, unused⟩ := distinct.leave found
    exact others.follow unused _ _

end Distinct

/-- A job is tracked from any reply on, whatever it may write. -/
theorem Distinct.tracks (distinct : c.Distinct) {place : Nat} {w : Pending κ σ F α}
    (found : c.pending[place]? = some w) {π : Protocol σ F} {post : Post σ F α}
    (writes : ∀ heard s t, π.writes heard s t) {say : ∀ q : F.Request, Option (F.Reply q)}
    {answer : F.Reply w.request} (said : say w.request = some answer)
    (obeys : (w.next answer).Obeys π post (w.heard ++ [⟨w.request, answer, c.state⟩]) c.state) :
    Tracks w.party.number π post (c.reply place say) := by
  obtain ⟨_, unused⟩ := distinct.leave found
  have none : Tracks w.party.number π post { c with pending := c.pending.eraseIdx place } :=
    ⟨fun v member same => absurd same (unused.pending v member), fun _ _ _ => writes ..,
      fun e member same => absurd same (unused.ended e member)⟩
  rw [reply_eq found said]
  exact none.follow _ _ fun _ => obeys

theorem pending_follow {w : Pending κ σ F α} {j : Job σ F α}
    (member : w ∈ (follow p heard j c).pending) : w ∈ c.pending ∨ w.party = p := by
  revert member
  refine follow_keeps (I := fun v => w ∈ v.pending → w ∈ c.pending ∨ w.party = p)
    (P := fun v => w ∈ v.pending → w ∈ c.pending ∨ w.party = p) heard j .inl
    (fun _ _ known => known) (fun v w' known same member => ?_) fun _ _ known _ => known
  rcases List.mem_append.mp member with old | new
  · exact known old
  · cases List.mem_singleton.mp new
    exact .inr same

end Chronicle

end Onboarding
