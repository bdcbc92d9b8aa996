import Onboarding.Proofs.Job.Protocol

/-! Jobs side by side on one state, with a record of what each of them has heard and done. Every
write is put down to the job that made it, and every job to whom it is for. From one wait to the
next a job makes some writes and then waits or ends; what it keeps on the way the record keeps. -/
namespace Onboarding

theorem forall_concat {α : Type} {P : α → Prop} {l : List α} {a : α} (others : ∀ b ∈ l, P b)
    (last : P a) : ∀ b ∈ l ++ [a], P b :=
  List.forall_mem_append.mpr ⟨others, List.forall_mem_singleton.mpr last⟩

theorem pairwise_concat {α : Type} {R : α → α → Prop} {l : List α} {a : α}
    (pairwise : l.Pairwise R) (last : ∀ b ∈ l, R b a) : (l ++ [a]).Pairwise R :=
  List.pairwise_append.mpr ⟨pairwise, List.pairwise_singleton .., fun b member =>
    List.forall_mem_singleton.mpr (last b member)⟩

theorem exists_eraseIdx {α : Type} {l : List α} {i : Nat} {a : α} (found : l[i]? = some a) :
    ∃ before after, l = before ++ a :: after ∧ l.eraseIdx i = before ++ after := by
  obtain ⟨bound, rfl⟩ := List.getElem?_eq_some_iff.mp found
  refine ⟨l.take i, l.drop (i + 1), ?_, List.eraseIdx_eq_take_drop_succ ..⟩
  rw [List.getElem_cons_drop, List.take_append_drop]

theorem pairwise_eraseIdx {α : Type} {R : α → α → Prop} {l : List α} {i : Nat} {a b : α}
    (pairwise : l.Pairwise R) (found : l[i]? = some a) (remains : b ∈ l.eraseIdx i) :
    R a b ∨ R b a := by
  obtain ⟨before, after, all, rest⟩ := exists_eraseIdx found
  rw [all, List.pairwise_append, List.pairwise_cons] at pairwise
  rw [rest] at remains
  rcases List.mem_append.mp remains with first | last
  · exact .inr (pairwise.2.2 b first a (List.mem_cons_self ..))
  · exact .inl (pairwise.2.1.1 b last)

/-- A job by its number, and whom it is for. -/
structure Party (κ : Type) where
  number : Nat
  agent : κ

variable {κ σ : Type} {F : Signature} {α : Type}

structure Pending (κ σ : Type) (F : Signature) (α : Type) where
  party : Party κ
  heard : List (Heard σ F)
  /-- The state in which the job began to wait. -/
  since : σ
  request : F.Request
  next : F.Reply request → Job σ F α

/-- One write, and what the job that made it had heard by then. -/
structure Deed (κ σ : Type) (F : Signature) where
  party : Party κ
  heard : List (Heard σ F)
  before : σ
  after : σ

structure Ended (κ σ : Type) (F : Signature) (α : Type) where
  party : Party κ
  heard : List (Heard σ F)
  ending : Except Crash α
  state : σ

/-- A state with the moments before it, the jobs that wait, and what has been done, the latest
first. -/
structure Chronicle (κ σ : Type) (F : Signature) (α : Type) where
  state : σ
  past : List σ := []
  begun : Nat := 0
  pending : List (Pending κ σ F α) := []
  deeds : List (Deed κ σ F) := []
  ended : List (Ended κ σ F α) := []

namespace Chronicle

def seen (c : Chronicle κ σ F α) : List σ := c.state :: c.past

def put (c : Chronicle κ σ F α) (s : σ) : Chronicle κ σ F α := { c with state := s, past := c.seen }

/-- Follows a job until it ends or waits. -/
def follow (p : Party κ) (heard : List (Heard σ F)) :
    Job σ F α → Chronicle κ σ F α → Chronicle κ σ F α
  | .done a, c => { c with ended := ⟨p, heard, .ok a, c.state⟩ :: c.ended }
  | .crash x, c => { c with ended := ⟨p, heard, .error x, c.state⟩ :: c.ended }
  | .ask .read next, c => follow p heard (next c.state) c
  | .ask (.write s) next, c =>
    follow p heard (next ()) { c.put s with deeds := ⟨p, heard, c.state, s⟩ :: c.deeds }
  | .ask (.outside q) next, c => { c with pending := c.pending ++ [⟨p, heard, c.state, q, next⟩] }

def start (c : Chronicle κ σ F α) (agent : κ) (j : Job σ F α) : Chronicle κ σ F α :=
  follow ⟨c.begun, agent⟩ [] j { c with begun := c.begun + 1 }

/-- Replies to the job in a given place of those that wait, if there is a reply to its request. -/
def reply (c : Chronicle κ σ F α) (place : Nat) (say : ∀ q : F.Request, Option (F.Reply q)) :
    Chronicle κ σ F α :=
  match c.pending[place]? with
  | none => c
  | some job =>
    match say job.request with
    | none => c
    | some answer =>
      { c with pending := c.pending.eraseIdx place }
        |> follow job.party (job.heard ++ [⟨job.request, answer, c.state⟩]) (job.next answer)

/-- A wait is put on record. -/
def await (c : Chronicle κ σ F α) (w : Pending κ σ F α) : Chronicle κ σ F α :=
  { c with pending := c.pending ++ [w] }

/-- An end is put on record. -/
def close (c : Chronicle κ σ F α) (e : Ended κ σ F α) : Chronicle κ σ F α :=
  { c with ended := e :: c.ended }

theorem reply_eq {c : Chronicle κ σ F α} {place : Nat} {w : Pending κ σ F α}
    (found : c.pending[place]? = some w) {say : ∀ q : F.Request, Option (F.Reply q)}
    {answer : F.Reply w.request} (said : say w.request = some answer) :
    c.reply place say = follow w.party (w.heard ++ [⟨w.request, answer, c.state⟩])
      (w.next answer) { c with pending := c.pending.eraseIdx place } := by
  simp only [reply, found, said]

theorem reply_unsaid {c : Chronicle κ σ F α} {place : Nat} {w : Pending κ σ F α}
    (found : c.pending[place]? = some w) {say : ∀ q : F.Request, Option (F.Reply q)}
    (unsaid : say w.request = none) : c.reply place say = c := by
  simp only [reply, found, unsaid]

/-- A reply finds nobody and changes nothing, or the job that it is for goes on. -/
theorem reply_cases (c : Chronicle κ σ F α) (place : Nat)
    (say : ∀ q : F.Request, Option (F.Reply q)) :
    c.reply place say = c ∨ ∃ w answer, c.pending[place]? = some w ∧ say w.request = some answer ∧
      c.reply place say = follow w.party (w.heard ++ [⟨w.request, answer, c.state⟩])
        (w.next answer) { c with pending := c.pending.eraseIdx place } := by
  cases found : c.pending[place]? with
  | none => exact .inl (by simp only [reply, found])
  | some w =>
    cases said : say w.request with
    | none => exact .inl (reply_unsaid found said)
    | some answer => exact .inr ⟨w, answer, rfl, said, reply_eq found said⟩

/-- Begins a new page: what was done so far is no longer on it. -/
def turn (c : Chronicle κ σ F α) : Chronicle κ σ F α :=
  { c with past := [], deeds := [], ended := [] }

/-- From one record to a later one a job has made some writes, and nothing else was done. -/
inductive Written (writes : σ → σ → Prop) (p : Party κ) (heard : List (Heard σ F)) :
    Chronicle κ σ F α → Chronicle κ σ F α → Prop where
  | refl (c) : Written writes p heard c c
  | write {c c' : Chronicle κ σ F α} {s : σ} (allowed : writes c.state s)
    (rest : Written writes p heard
      { c.put s with deeds := ⟨p, heard, c.state, s⟩ :: c.deeds } c') : Written writes p heard c c'

variable {writes : σ → σ → Prop} {p : Party κ} {heard : List (Heard σ F)}
  {c c' : Chronicle κ σ F α}

/-- What every write keeps is kept. -/
theorem Written.keeps {P : Chronicle κ σ F α → Prop} (written : Written writes p heard c c')
    (kept : ∀ c s, P c → writes c.state s →
      P { c.put s with deeds := ⟨p, heard, c.state, s⟩ :: c.deeds }) (start : P c) : P c' := by
  induction written with
  | refl => exact start
  | write allowed rest ih => exact ih (kept _ _ start allowed)

theorem Written.begun (written : Written writes p heard c c') : c'.begun = c.begun :=
  written.keeps (P := fun v => v.begun = c.begun) (fun _ _ same _ => same) rfl

theorem Written.ended (written : Written writes p heard c c') : c'.ended = c.ended :=
  written.keeps (P := fun v => v.ended = c.ended) (fun _ _ same _ => same) rfl

theorem Written.pending (written : Written writes p heard c c') : c'.pending = c.pending :=
  written.keeps (P := fun v => v.pending = c.pending) (fun _ _ same _ => same) rfl

/-- A job that keeps to a protocol waits as it may and will go on to keep to it, or ends as it
should, after some writes. -/
theorem follow_obeys {π : Protocol σ F} {post : Post σ F α} {j : Job σ F α}
    (obeys : j.Obeys π post heard c.state) :
    ∃ c', Written (π.writes heard) p heard c c' ∧
      ((∃ q next, follow p heard j c = c'.await ⟨p, heard, c'.state, q, next⟩ ∧
          π.waits heard q c'.state ∧ ∀ r t, π.finds q r c'.state t →
            (next r).Obeys π post (heard ++ [⟨q, r, t⟩]) t) ∨
        ∃ e, follow p heard j c = c'.close ⟨p, heard, e, c'.state⟩ ∧ post heard e c'.state) := by
  induction j generalizing c with
  | done a => exact ⟨c, .refl c, .inr ⟨.ok a, rfl, obeys⟩⟩
  | crash x => exact ⟨c, .refl c, .inr ⟨.error x, rfl, obeys⟩⟩
  | ask q next ih =>
    match q with
    | .read => exact ih c.state obeys
    | .write s =>
      obtain ⟨allowed, obeys⟩ := obeys
      obtain ⟨c', written, stops⟩ := ih () (c := { c.put s with
        deeds := ⟨p, heard, c.state, s⟩ :: c.deeds }) obeys
      exact ⟨c', .write allowed written, stops⟩
    | .outside q => exact ⟨c, .refl c, .inl ⟨q, next, rfl, obeys.1, obeys.2⟩⟩

/-- A job that asks for nothing ends at once. -/
theorem closes_prompt {post : Post σ F α} {j : Job σ F α}
    (obeys : j.Obeys .prompt post heard c.state) :
    ∃ c' e, Written (fun _ _ => True) p heard c c' ∧
      follow p heard j c = c'.close ⟨p, heard, e, c'.state⟩ ∧ post heard e c'.state := by
  obtain ⟨c', written, ⟨_, _, _, waits, _⟩ | ⟨e, closed, ends⟩⟩ := follow_obeys (p := p) obeys
  · exact waits.elim
  · exact ⟨c', e, written, closed, ends⟩

theorem follow_prompt {post : Post σ F α} {j : Job σ F α}
    (obeys : j.Obeys .prompt post heard c.state) :
    ∃ e, post heard e (follow p heard j c).state := by
  obtain ⟨c', e, _, closed, ends⟩ := closes_prompt (p := p) obeys
  rw [closed]
  exact ⟨e, ends⟩

/-- What a job that keeps to a protocol makes true as it waits or ends is true where it is followed
to, if its writes keep what that takes. -/
theorem follow_induction {π : Protocol σ F} {post : Post σ F α} {I P : Chronicle κ σ F α → Prop}
    {j : Job σ F α} (obeys : j.Obeys π post heard c.state) (start : I c)
    (write : ∀ c s, I c → π.writes heard c.state s →
      I { c.put s with deeds := ⟨p, heard, c.state, s⟩ :: c.deeds })
    (await : ∀ c q next, I c → π.waits heard q c.state → (∀ r t, π.finds q r c.state t →
      (next r).Obeys π post (heard ++ [⟨q, r, t⟩]) t) → P (c.await ⟨p, heard, c.state, q, next⟩))
    (close : ∀ c e, I c → post heard e c.state → P (c.close ⟨p, heard, e, c.state⟩)) :
    P (follow p heard j c) := by
  obtain ⟨c', written, ⟨q, next, awaits, waits, goes⟩ | ⟨e, closes, ends⟩⟩ :=
    follow_obeys (p := p) obeys
  · rw [awaits]
    exact await c' q next (written.keeps write start) waits goes
  · rw [closes]
    exact close c' e (written.keeps write start) ends

/-- The same of any job. -/
theorem follow_keeps {I P : Chronicle κ σ F α → Prop} (heard : List (Heard σ F)) (j : Job σ F α)
    (start : I c)
    (write : ∀ c s, I c → I { c.put s with deeds := ⟨p, heard, c.state, s⟩ :: c.deeds })
    (await : ∀ c w, I c → w.party = p → P (c.await w))
    (close : ∀ c e, I c → e.party = p → P (c.close e)) : P (follow p heard j c) :=
  follow_induction (j.obeys_trivial heard c.state) start (fun c s kept _ => write c s kept)
    (fun c _ _ kept _ _ => await c _ kept rfl) fun c _ kept _ => close c _ kept rfl

theorem seen_follow (p : Party κ) (heard : List (Heard σ F)) (j : Job σ F α)
    (c : Chronicle κ σ F α) : c.seen <:+ (follow p heard j c).seen :=
  follow_keeps (I := fun v => c.seen <:+ v.seen) (P := fun v => c.seen <:+ v.seen) heard j
    (List.suffix_refl _) (fun v s seen => seen.trans (List.suffix_cons s v.seen))
    (fun _ _ seen _ => seen) fun _ _ seen _ => seen

theorem begun_follow (p : Party κ) (heard : List (Heard σ F)) (j : Job σ F α)
    (c : Chronicle κ σ F α) : (follow p heard j c).begun = c.begun :=
  follow_keeps (I := fun v => v.begun = c.begun) (P := fun v => v.begun = c.begun) heard j rfl
    (fun _ _ same => same) (fun _ _ same _ => same) fun _ _ same _ => same

/-- A job that ends at once leaves the state that it comes to, and nothing that waits. -/
theorem follow_done (p : Party κ) (heard : List (Heard σ F)) {j : Job σ F α} {a : α} {t : σ}
    (done : Job.advance j c.state = (.done a, t)) :
    (follow p heard j c).state = t ∧ (follow p heard j c).pending = c.pending := by
  have obeys : j.Obeys .prompt (fun _ _ s => s = t) heard c.state :=
    Job.obeys_of_done (fun _ _ _ => trivial) done rfl
  obtain ⟨c', e, written, closes, same⟩ := closes_prompt (p := p) obeys
  rw [closes]
  exact ⟨same, written.pending⟩

theorem seen_start (c : Chronicle κ σ F α) (agent : κ) (j : Job σ F α) :
    c.seen <:+ (c.start agent j).seen := seen_follow _ _ j { c with begun := c.begun + 1 }

theorem begun_start (c : Chronicle κ σ F α) (agent : κ) (j : Job σ F α) :
    (c.start agent j).begun = c.begun + 1 := begun_follow _ _ j { c with begun := c.begun + 1 }

theorem seen_reply (c : Chronicle κ σ F α) (place : Nat)
    (say : ∀ q : F.Request, Option (F.Reply q)) : c.seen <:+ (c.reply place say).seen := by
  rcases c.reply_cases place say with same | ⟨w, answer, _, _, same⟩
  · simp only [same, List.suffix_refl]
  · rw [same]
    exact seen_follow _ _ _ { c with pending := c.pending.eraseIdx place }

theorem begun_reply (c : Chronicle κ σ F α) (place : Nat)
    (say : ∀ q : F.Request, Option (F.Reply q)) : (c.reply place say).begun = c.begun := by
  rcases c.reply_cases place say with same | ⟨w, answer, _, _, same⟩ <;> rw [same]
  exact begun_follow _ _ _ _

end Chronicle

end Onboarding
