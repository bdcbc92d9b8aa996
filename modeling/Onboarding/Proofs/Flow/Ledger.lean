import Onboarding.Proofs.Flow.Turns

/-! The ledger of a desk whose calls take turns on each flow. It says at every wait who has the turn
on which flow, that the flow shows the form that was answered last, and that what has ended stays
so. A call that is going on is taken off the ledger, together with its flow if it has the turn
there, and is entered again where it waits or ends. -/
namespace Onboarding

namespace Desk

variable {H : Type} {F : Signature} {u : Practice H} {steps : Steps H F}
  {starts : Nat → String → Prop} {out : Option String} {c c' : Record H F} {d t : Desk H}
  {id g : String} {w : Pending (Option String) (Desk H) (.desk F) Answer}
  {e : Ended (Option String) (Desk H) (.desk F) Answer}

namespace Record

/-- The form that was answered last for a flow. -/
def lastForm (c : Record H F) (id : String) : Option Page :=
  c.ended.findSome? fun e => shownBy id e.ending

/-- A call on the flow has crashed. -/
def Stumbled (c : Record H F) (id : String) : Prop :=
  ∃ e ∈ c.ended, e.party.agent = some id ∧ ∃ x, e.ending = .error x

/-- A call on the flow is in the middle of its step, or of what comes of it. -/
def InStep (c : Record H F) (id : String) : Prop := ∃ w ∈ c.pending, w.InStep id

/-- The start of the flow is over, with a form or by a crash. -/
def Begun (c : Record H F) (id : String) : Prop := c.lastForm id ≠ none ∨ c.Stumbled id

end Record

/-- The flow is off the lists for good. -/
structure Off (d : Desk H) (id : String) : Prop where
  flow : ∃ f, d.flows[id]? = some f
  unlisted : id ∉ d.listed

theorem Forth.flow (forth : Forth d t) (known : ∃ f, d.flows[id]? = some f) :
    ∃ f, t.flows[id]? = some f := by
  obtain ⟨f, here⟩ := known
  obtain ⟨f', there, _⟩ := forth.later.flows id f here
  exact ⟨f', there⟩

theorem Forth.off (forth : Forth d t) (off : d.Off id) : t.Off id := by
  refine ⟨forth.flow off.flow, fun listed => ?_⟩
  obtain ⟨f, here⟩ := off.flow
  rcases forth.later.listed id listed with before | none
  · exact off.unlisted before
  · cases none.symm.trans here

theorem Over.off (gone : d.Over id) : d.Off id := by
  obtain ⟨f, here, _⟩ := gone.flow
  exact ⟨⟨f, here⟩, gone.unlisted⟩

/-- Nothing is done to the flow, but that it may go off the lists. -/
structure Undisturbed (id : String) (d t : Desk H) : Prop where
  busy : t.Busy id ↔ d.Busy id
  shows : ∀ p, d.Shows id p → t.Shows id p
  listed : id ∈ t.listed → id ∈ d.listed

theorem Spares.undisturbed {agent : Option String} (spares : Spares agent d t)
    (other : agent ≠ some id) : Undisturbed id d t :=
  have alike := spares.alike other
  ⟨alike.busy_iff fun _ => rfl, fun _ => alike.shows, spares.listed id other⟩

theorem Sound.undisturbed_abort (sound : d.Sound u) (id other : String) :
    Undisturbed other d (d.abort id).1 := by
  unfold Desk.abort
  split
  · have retirement := d.retirement_delist id
    by_cases here : id = other
    · subst here
      have alike := retirement.alike (fun _ => rfl) fun _ => rfl
      exact ⟨alike.busy_iff fun _ => rfl, fun _ => alike.shows,
        fun member => ((retirement.listed id).mp member).2⟩
    · exact (sound.delist id).spares.undisturbed fun same => here (Option.some.inj same)
  · exact ⟨Iff.rfl, fun _ shows => shows, fun member => member⟩

/-- How a job that waits stands on the record: an errand, a submit that waits for its turn, or a
call that has it. Numbers that `starts` gives a flow are those of starts. -/
inductive Standing (u : Practice H) (steps : Steps H F) (starts : Nat → String → Prop)
    (c : Record H F) : Pending (Option String) (Desk H) (.desk F) Answer → Prop where
  | errand {w : Pending (Option String) (Desk H) (.desk F) Answer} (agent : w.party.agent = none)
    (goes : ∀ r t, (aside u).finds w.request r w.since t →
      (w.next r).Obeys (aside u) (fun _ ended _ => ∀ a, ended ≠ .ok (.flow a))
        (w.heard ++ [⟨w.request, r, t⟩]) t) : Standing u steps starts c w
  | queued {party : Party (Option String)} {since : Desk H} {id : String} {input : Data}
    (agent : party.agent = some id) (known : ∃ f, c.state.flows[id]? = some f)
    (later : ∀ g, ¬ starts party.number g) : Standing u steps starts c
      ⟨party, [], since, .awaitFlow id, fun _ => turnCall steps id input⟩
  | seated {w : Pending (Option String) (Desk H) (.desk F) Answer} {id : String} {first : Bool}
    (inStep : w.InStep id) (busy : c.state.Busy id)
    (begun : first = false → c.Begun id ∨ c.state.Off id)
    (started : ∀ g, starts w.party.number g → g = id ∧ first = true)
    (goes : ∀ r t, (manners u id (c.lastForm id)).finds w.request r w.since t →
      (w.next r).Obeys (manners u id (c.lastForm id))
        (answering (Returns id (c.lastForm id) first)) (w.heard ++ [⟨w.request, r, t⟩]) t) :
    Standing u steps starts c w

theorem Standing.mono (standing : Standing u steps starts c w) (forth : Forth c.state c'.state)
    (busy : ∀ id, w.InStep id → c.state.Busy id → c'.state.Busy id)
    (form : ∀ id, w.InStep id → c'.lastForm id = c.lastForm id)
    (begun : ∀ id, c.Begun id → c'.Begun id) : Standing u steps starts c' w := by
  cases standing with
  | errand agent goes => exact .errand agent goes
  | queued agent known later => exact .queued agent (forth.flow known) later
  | seated inStep here began started goes =>
    refine .seated inStep (busy _ inStep here)
      (fun later => (began later).imp (begun _) forth.off) started ?_
    rw [form _ inStep]
    exact goes

/-- What is so of the record at every wait. The turn on the flow that is out is with a call that is
going on. -/
structure Ledger (u : Practice H) (steps : Steps H F) (starts : Nat → String → Prop)
    (out : Option String) (c : Record H F) : Prop where
  moments : ∀ d ∈ c.seen, d.Sound u ∧ Forth d c.state
  waiting : ∀ w ∈ c.pending, w.party.number < c.begun
  done : ∀ e ∈ c.ended, e.party.number < c.begun
  since : ∀ w ∈ c.pending, Forth w.since c.state
  standing : ∀ w ∈ c.pending, Standing u steps starts c w
  apart : c.pending.Pairwise fun v w => ∀ id, v.InStep id → ¬ w.InStep id
  away : ∀ w ∈ c.pending, ∀ id, w.InStep id → out ≠ some id
  manned : ∀ id, c.state.Busy id → out = some id ∨ c.InStep id
  shown : ∀ id p, c.lastForm id = some p → out = some id ∨ c.state.Shows id p
  gone : ∀ e ∈ c.ended, ∀ id, Concludes id e.ending → c.state.Over id ∧ ¬ c.InStep id
  single : c.ended.Pairwise fun e e' => ∀ id, Concludes id e.ending → ¬ Concludes id e'.ending
  begins : ∀ id ∈ c.state.listed, out = some id ∨ c.Begun id ∨ c.InStep id
  failed : ∀ e ∈ c.ended, ∀ id, starts e.party.number id → Fails e.ending → c.state.Off id

namespace Ledger

theorem sound (ledger : Ledger u steps starts out c) : c.state.Sound u :=
  (ledger.moments c.state (List.mem_cons_self ..)).1

/-- No call has ended the flow. -/
def Open (c : Record H F) (id : String) : Prop := ∀ e ∈ c.ended, ¬ Concludes id e.ending

theorem open_of_not_over (ledger : Ledger u steps starts out c) (going : ¬ c.state.Over id) :
    Open c id := fun e member concludes => going (ledger.gone e member id concludes).1

/-- A write for the flow that is out, or one that disturbs no flow. -/
theorem put (ledger : Ledger u steps starts out c) (sound : t.Sound u) (forth : Forth c.state t)
    (rest : ∀ id, out ≠ some id → Undisturbed id c.state t)
    (deeds : List (Deed (Option String) (Desk H) (.desk F))) :
    Ledger u steps starts out { c.put t with deeds } where
  moments := by
    refine List.forall_mem_cons.mpr ⟨⟨sound, .refl t⟩, fun d member => ?_⟩
    obtain ⟨before, since⟩ := ledger.moments d member
    exact ⟨before, since.trans forth⟩
  waiting := ledger.waiting
  done := ledger.done
  since w member := (ledger.since w member).trans forth
  standing w member := (ledger.standing w member).mono forth
    (fun id inStep busy => (rest id (ledger.away w member id inStep)).busy.mpr busy)
    (fun _ _ => rfl) fun _ begun => begun
  apart := ledger.apart
  away := ledger.away
  manned id busy := by
    by_cases here : out = some id
    · exact .inl here
    · exact ledger.manned id ((rest id here).busy.mp busy)
  shown id p shown := by
    by_cases here : out = some id
    · exact .inl here
    · exact (ledger.shown id p shown).imp_right ((rest id here).shows p)
  gone e member id concludes := by
    obtain ⟨gone, idle⟩ := ledger.gone e member id concludes
    exact ⟨forth.gone gone, idle⟩
  single := ledger.single
  begins id listed := by
    by_cases here : out = some id
    · exact .inl here
    · exact ledger.begins id ((rest id here).listed listed)
  failed e member id began fails := forth.off (ledger.failed e member id began fails)

theorem written {p : Party (Option String)} {heard : List (Heard (Desk H) (.desk F))}
    (ledger : Ledger u steps starts out c)
    (written : Chronicle.Written (Stroke u out) p heard c c') : Ledger u steps starts out c' :=
  written.keeps (fun _ _ ledger stroke => ledger.put stroke.sound stroke.forth
    (fun _ other => stroke.spares.undisturbed other) _) ledger

/-- A job that has its reply leaves its place, and its flow is out if it has the turn there. -/
theorem leave (ledger : Ledger u steps starts none c) (out : Option String) {place : Nat}
    (found : c.pending[place]? = some w) (seat : ∀ id, w.InStep id ↔ out = some id) :
    Ledger u steps starts out { c with pending := c.pending.eraseIdx place } := by
  obtain ⟨before, after, all, rest⟩ := exists_eraseIdx found
  have others : ∀ v ∈ c.pending.eraseIdx place, v ∈ c.pending := fun v member =>
    List.mem_of_mem_eraseIdx member
  have elsewhere : ∀ v ∈ c.pending.eraseIdx place, ∀ id, v.InStep id → ¬ w.InStep id := by
    intro v member id inStep seated
    rcases pairwise_eraseIdx ledger.apart found member with apart | apart
    · exact apart id seated inStep
    · exact apart id inStep seated
  have remains {id : String} (inStep : c.InStep id) :
      out = some id ∨ Record.InStep { c with pending := c.pending.eraseIdx place } id := by
    obtain ⟨v, member, inStep⟩ := inStep
    rw [all] at member
    rcases List.mem_append.mp member with first | last
    · exact .inr ⟨v, by rw [rest]; exact List.mem_append_left _ first, inStep⟩
    rcases List.mem_cons.mp last with rfl | last
    · exact .inl ((seat id).mp inStep)
    · exact .inr ⟨v, by rw [rest]; exact List.mem_append_right _ last, inStep⟩
  refine { ledger with
    waiting := fun v member => ledger.waiting v (others v member)
    since := fun v member => ledger.since v (others v member)
    standing := fun v member => (ledger.standing v (others v member)).mono (.refl _)
      (fun _ _ busy => busy) (fun _ _ => rfl) fun _ begun => begun
    apart := ledger.apart.sublist (List.eraseIdx_sublist ..)
    away := fun v member id inStep outside =>
      elsewhere v member id inStep ((seat id).mpr outside)
    manned := fun id busy => remains ((ledger.manned id busy).resolve_left (by rintro ⟨⟩))
    shown := fun id p shown => .inr ((ledger.shown id p shown).resolve_left (by rintro ⟨⟩))
    gone := fun e member id concludes => ?_
    begins := fun id listed => ?_ }
  · obtain ⟨gone, idle⟩ := ledger.gone e member id concludes
    exact ⟨gone, fun ⟨v, member, inStep⟩ => idle ⟨v, others v member, inStep⟩⟩
  · rcases (ledger.begins id listed).resolve_left (by rintro ⟨⟩) with begun | inStep
    · exact .inr (.inl begun)
    · exact (remains inStep).imp_right .inr

/-- Who has the turn on a flow has marked it. -/
theorem busy (ledger : Ledger u steps starts out c) (inStep : c.InStep id) : c.state.Busy id := by
  obtain ⟨w, member, inStep⟩ := inStep
  cases ledger.standing w member with
  | errand agent goes => cases agent.symm.trans inStep.1
  | queued agent known later => exact absurd rfl (inStep.2 _)
  | seated seated busy begun started goes =>
    cases seated.1.symm.trans inStep.1
    exact busy

/-- A turn that is free is taken. -/
theorem take (ledger : Ledger u steps starts none c) (free : ¬ c.state.Busy g) :
    Ledger u steps starts (some g) c := by
  refine { ledger with
    away := fun w member id inStep outside => ?_
    manned := fun id busy => .inr ((ledger.manned id busy).resolve_left (by rintro ⟨⟩))
    shown := fun id p shown => .inr ((ledger.shown id p shown).resolve_left (by rintro ⟨⟩))
    begins := fun id listed => .inr ((ledger.begins id listed).resolve_left (by rintro ⟨⟩)) }
  cases outside
  exact free (ledger.busy ⟨w, member, inStep⟩)

/-- A new job begins. -/
theorem enter (ledger : Ledger u steps starts out c) :
    Ledger u steps starts out { c with begun := c.begun + 1 } :=
  { ledger with
    waiting := fun w member => Nat.lt_succ_of_lt (ledger.waiting w member)
    done := fun e member => Nat.lt_succ_of_lt (ledger.done e member)
    standing := fun w member => (ledger.standing w member).mono (.refl _) (fun _ _ busy => busy)
      (fun _ _ => rfl) fun _ begun => begun }

/-- A job is entered where it waits. -/
theorem await (ledger : Ledger u steps starts out c) (number : w.party.number < c.begun)
    (since : w.since = c.state) (standing : Standing u steps starts (Chronicle.await c w) w)
    (seat : ∀ id, w.InStep id ↔ out = some id)
    (shows : ∀ id p, out = some id → c.lastForm id = some p → c.state.Shows id p)
    (opens : ∀ id, out = some id → Open c id) :
    Ledger u steps starts none (Chronicle.await c w) := by
  have here {id : String} (outside : out = some id) : Record.InStep (Chronicle.await c w) id :=
    ⟨w, List.mem_append_right _ (List.mem_singleton.mpr rfl), (seat id).mpr outside⟩
  have still {id : String} (inStep : c.InStep id) : Record.InStep (Chronicle.await c w) id := by
    obtain ⟨v, member, inStep⟩ := inStep
    exact ⟨v, List.mem_append_left _ member, inStep⟩
  refine { ledger with
    waiting := forall_concat ledger.waiting number
    since := forall_concat ledger.since (since ▸ .refl _)
    standing := forall_concat (fun v member => (ledger.standing v member).mono (.refl _)
      (fun _ _ busy => busy) (fun _ _ => rfl) fun _ begun => begun) standing
    apart := pairwise_concat ledger.apart fun v member id inStep seated =>
      ledger.away v member id inStep ((seat id).mp seated)
    away := by rintro _ _ _ _ ⟨⟩
    manned := fun id busy => .inr ?_
    shown := fun id p shown => .inr ?_
    gone := fun e member id concludes => ?_
    begins := fun id listed => .inr ?_ }
  · exact (ledger.manned id busy).elim here still
  · exact (ledger.shown id p shown).elim (fun outside => shows id p outside shown) fun shows => shows
  · obtain ⟨gone, idle⟩ := ledger.gone e member id concludes
    refine ⟨gone, fun ⟨v, at', inStep⟩ => ?_⟩
    rcases List.mem_append.mp at' with before | new
    · exact idle ⟨v, before, inStep⟩
    · cases List.mem_singleton.mp new
      exact opens id ((seat id).mp inStep) e member concludes
  · rcases ledger.begins id listed with outside | begun | inStep
    · exact .inr (here outside)
    · exact .inl begun
    · exact .inr (still inStep)

/-- What a job that ends has to show for it: nothing of flows but the one that is out. -/
structure Closes (starts : Nat → String → Prop) (out : Option String) (c : Record H F)
    (e : Ended (Option String) (Desk H) (.desk F) Answer) : Prop where
  free : ∀ id, out = some id → ¬ c.state.Busy id
  form : ∀ id p, shownBy id e.ending = some p → out = some id ∧ c.state.Shows id p
  kept : ∀ id p, out = some id → shownBy id e.ending = none → c.lastForm id = some p →
    c.state.Shows id p
  concludes : ∀ id, Concludes id e.ending → out = some id ∧ c.state.Over id ∧ Open c id
  begun : ∀ id ∈ c.state.listed, out = some id → Record.Begun (Chronicle.close c e) id
  failed : ∀ id, starts e.party.number id → Fails e.ending → c.state.Off id

theorem lastForm_close (c : Record H F) (e : Ended (Option String) (Desk H) (.desk F) Answer)
    (id : String) :
    Record.lastForm (Chronicle.close c e) id = (shownBy id e.ending).or (c.lastForm id) := by
  unfold Record.lastForm Chronicle.close
  rw [List.findSome?_cons]
  cases shownBy id e.ending <;> rfl

theorem begun_close (e : Ended (Option String) (Desk H) (.desk F) Answer) (begun : c.Begun id) :
    Record.Begun (Chronicle.close c e) id := by
  rcases begun with shown | ⟨e', member, stumbled⟩
  · refine .inl ?_
    rw [lastForm_close]
    cases shownBy id e.ending with
    | none => exact shown
    | some p => rintro ⟨⟩
  · exact .inr ⟨e', List.mem_cons_of_mem _ member, stumbled⟩

/-- A job is entered where it ends. -/
theorem close (ledger : Ledger u steps starts out c) (number : e.party.number < c.begun)
    (closes : Closes starts out c e) : Ledger u steps starts none (Chronicle.close c e) := by
  have idle {id : String} (outside : out = some id) : ¬ c.InStep id :=
    fun ⟨w, member, inStep⟩ => ledger.away w member id inStep outside
  have form {id : String} (other : out ≠ some id) :
      Record.lastForm (Chronicle.close c e) id = c.lastForm id := by
    rw [lastForm_close]
    cases shown : shownBy id e.ending with
    | none => rfl
    | some p => exact absurd (closes.form id p shown).1 other
  refine { ledger with
    done := List.forall_mem_cons.mpr ⟨number, ledger.done⟩
    standing := fun w member => (ledger.standing w member).mono (.refl _) (fun _ _ busy => busy)
      (fun id inStep => form (ledger.away w member id inStep)) fun _ => begun_close e
    away := by rintro _ _ _ _ ⟨⟩
    manned := fun id busy => ?_
    shown := fun id p shown => ?_
    gone := List.forall_mem_cons.mpr ⟨fun id concludes => ?_, ledger.gone⟩
    single := List.pairwise_cons.mpr ⟨fun e' member id concludes => ?_, ledger.single⟩
    begins := fun id listed => ?_
    failed := List.forall_mem_cons.mpr ⟨closes.failed, ledger.failed⟩ }
  · rcases ledger.manned id busy with outside | inStep
    · exact absurd busy (closes.free id outside)
    · exact .inr inStep
  · refine .inr ?_
    rw [lastForm_close] at shown
    cases answered : shownBy id e.ending with
    | some p' =>
      rw [answered] at shown
      cases shown
      exact (closes.form id p answered).2
    | none =>
      rw [answered] at shown
      rcases ledger.shown id p shown with outside | shows
      · exact closes.kept id p outside answered shown
      · exact shows
  · obtain ⟨outside, gone, _⟩ := closes.concludes id concludes
    exact ⟨gone, idle outside⟩
  · exact (closes.concludes id concludes).2.2 e' member
  · rcases ledger.begins id listed with outside | begun | inStep
    · exact .inr (.inl (closes.begun id listed outside))
    · exact .inr (.inl (begun_close e begun))
    · exact .inr (.inr inStep)

end Ledger

end Desk

end Onboarding
