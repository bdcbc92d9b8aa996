import Onboarding.Proofs.Job.Steps
import Onboarding.Proofs.Registry.Grounds

/-! Registries over their whole life: while integrations are asked, while errands wait for their
turn, over failures of the storage and over restarts. The turn is given to one errand at a time, so
of all errands at most one waits for an integration; and as long as it waits, nothing else moves the
entry that it has put in setup. -/
namespace Onboarding.Registry

/-- What may happen to a registry: an event of its course, or that it reads its file again. -/
inductive Occasion where
  | event (e : Event)
  | load (now : Instant)

/-- A registry with its errands, and with what they have done. -/
abbrev Book := Chronicle Errand Registry .hosting (Except RegistryError Unit)

/-- From one registry to another, at most the phase and the reason of one entry have changed, and
perhaps who has the turn. -/
structure Touches (id : String) (r s : Registry) : Prop where
  disk : s.disk = r.disk
  handled : s.handled = r.handled
  byDomain : s.byDomain = r.byDomain
  byUniqueId : s.byUniqueId = r.byUniqueId
  others : ∀ other, other ≠ id → s.get? other = r.get? other
  persisted : ∀ other, (s.get? other).map Entry.persisted = (r.get? other).map Entry.persisted

/-- The errand waits for an integration, and not for its turn. -/
def Asking (w : Pending Errand Registry .hosting (Except RegistryError Unit)) : Prop :=
  w.request ≠ .awaitTurn

namespace Book

/-- The turn is given only while nobody has it. -/
def tell (r : Registry) (verdict : Verdict) : ∀ q : Hosting, Option q.Reply
  | .setUp _ => some verdict
  | .awaitTurn => if r.settingUp then none else some ()

def happen (b : Book) : Occasion → Book
  | .event (.change c) => b.put (c.apply b.state)
  | .event (.errand a) => b.start a a.action.run
  | .event (.reply place verdict) => b.reply place (tell b.state verdict)
  -- errands do not outlast a restart
  | .event (.restart now) => { b.put (b.state.restarted now) with pending := [] }
  | .load now => b.put (b.state.load now).1

def after (b : Book) (occasions : List Occasion) : Book := occasions.foldl happen b

/-- A registry that has not read its file yet. -/
def opened (disk : Disk) (handled : Std.ExtTreeSet String) : Book where
  state := onDisk disk handled

end Book

variable {r s t : Registry} {id : String} {a : Errand} {heard : List (Heard Registry .hosting)}

theorem Touches.refl (id : String) (r : Registry) : Touches id r r :=
  ⟨rfl, rfl, rfl, rfl, fun _ _ => rfl, fun _ => rfl⟩

theorem Touches.trans (first : Touches id r s) (second : Touches id s t) : Touches id r t where
  disk := second.disk.trans first.disk
  handled := second.handled.trans first.handled
  byDomain := second.byDomain.trans first.byDomain
  byUniqueId := second.byUniqueId.trans first.byUniqueId
  others other apart := (second.others other apart).trans (first.others other apart)
  persisted other := (second.persisted other).trans (first.persisted other)

theorem Errand.Writes.touches (writes : a.Writes heard r s) (filed : r.Filed) :
    Touches a.id r s := by
  cases writes with
  | turn busy => exact ⟨rfl, rfl, rfl, rfl, fun _ _ => rfl, fun _ => rfl⟩
  | @phase old target reason held leads grounds =>
    have here : old.id = a.id := filed a.id old held
    refine ⟨rfl, rfl, rfl, rfl, fun other apart => ?_, fun other => ?_⟩
    · rw [Catalog.get?_revise, if_neg]
      intro same
      exact apart (same.symm.trans here)
    · rw [Catalog.get?_revise]
      split
      · rename_i same
        obtain rfl : a.id = other := here.symm.trans same
        rw [held]
        rfl
      · rfl

/-- An entry that a write makes loaded is the one of the errand. -/
theorem Errand.Writes.loaded (writes : a.Writes heard r s) (filed : r.Filed) {e : Entry}
    (held : s.get? id = some e) (phase : e.phase = .loaded) :
    (∃ old, r.get? id = some old ∧ old.phase = .loaded) ∨
      a.id = id ∧ a.setsUp = true ∧ (e.domain ∉ r.handled ∨
        ∃ asked, asked.id = id ∧ asked.domain = e.domain ∧
          heard.getLast? = some ⟨.setUp asked, .ready, r⟩) := by
  cases writes with
  | turn busy => exact .inl ⟨e, held, phase⟩
  | @phase old target reason before leads grounds =>
    rw [Catalog.get?_revise] at held
    split at held
    · rename_i same
      cases held
      cases phase
      obtain rfl : a.id = id := (filed a.id old before).symm.trans same
      cases grounds with
      | ready setsUp here domain answered =>
        exact .inr ⟨rfl, setsUp, .inr ⟨_, here.trans same, domain, answered⟩⟩
      | unhandled setsUp free => exact .inr ⟨rfl, setsUp, .inl free⟩
    · exact .inl ⟨e, held, phase⟩

/-- How an errand that waits stands: it waits for its turn, or has it and has put the entry in setup
that an integration is asked for. -/
inductive Standing (r : Registry) :
    Pending Errand Registry .hosting (Except RegistryError Unit) → Prop where
  | queued {party : Party Errand} {since : Registry} :
    Standing r ⟨party, [], since, .awaitTurn, fun _ => party.agent.turn⟩
  | asking {party : Party Errand} {heard : List (Heard Registry .hosting)} {since : Registry}
    {asked : Entry} {next : Verdict → Job Registry .hosting (Except RegistryError Unit)}
    (busy : r.settingUp = true) (awaits : r.Awaits asked)
    (waits : party.agent.bounds.waits heard (.setUp asked) since)
    (goes : ∀ verdict t, party.agent.bounds.finds (.setUp asked) verdict since t →
      (next verdict).Obeys party.agent.bounds (fun heard _ s => Errand.Entered heard s)
        (heard ++ [⟨.setUp asked, verdict, t⟩]) t) :
    Standing r ⟨party, heard, since, .setUp asked, next⟩

theorem Standing.mono {w : Pending Errand Registry .hosting (Except RegistryError Unit)}
    (standing : Standing r w) (leaves : r.toCatalog.Leaves s.toCatalog)
    (busy : s.settingUp = r.settingUp) : Standing s w := by
  cases standing with
  | queued => exact .queued
  | asking held awaits waits goes =>
    exact .asking (busy.trans held) (leaves.awaits awaits) waits goes

namespace Book

/-- No errand waits for an integration. -/
def Idle (b : Book) : Prop := ∀ w ∈ b.pending, ¬ Asking w

/-- What is so of the record at every wait. -/
structure Sound (b : Book) : Prop where
  moments : ∀ r ∈ b.seen, r.Regular
  deeds : ∀ d ∈ b.deeds, d.party.agent.Writes d.heard d.before d.after ∧ d.before.Filed
  standing : ∀ w ∈ b.pending, Standing b.state w
  single : b.pending.Pairwise fun v w => Asking v → ¬ Asking w
  explained : b.Explained fun r s => r.toCatalog.Leaves s.toCatalog

variable {b c : Book}

theorem start_free (free : b.state.settingUp = false) (a : Errand) :
    b.start a a.action.run = b.start a a.turn := by
  rw [a.action_eq]
  change Chronicle.follow ⟨b.begun, a⟩ [] (if b.state.settingUp = true
    then _ else _ : Action Unit).run { b with begun := b.begun + 1 } = _
  rw [free]
  rfl

theorem start_busy (busy : b.state.settingUp = true) (a : Errand) :
    b.start a a.action.run = Chronicle.await { b with begun := b.begun + 1 }
      ⟨⟨b.begun, a⟩, [], b.state, .awaitTurn, fun _ => a.turn⟩ := by
  rw [a.action_eq]
  change Chronicle.follow ⟨b.begun, a⟩ [] (if b.state.settingUp = true
    then _ else _ : Action Unit).run { b with begun := b.begun + 1 } = _
  rw [busy]
  rfl

namespace Sound

theorem state (sound : b.Sound) : b.state.Regular :=
  sound.moments b.state (List.mem_cons_self ..)

/-- While nobody has the turn, no integration is asked. -/
theorem idle (sound : b.Sound) (free : b.state.settingUp = false) : b.Idle := by
  intro w member
  cases sound.standing w member with
  | queued => exact fun asking => asking rfl
  | asking busy awaits waits goes => cases busy.symm.trans free

/-- What is done from outside leaves the errands where they are. -/
theorem put (sound : b.Sound) (leaves : b.state.toCatalog.Leaves s.toCatalog) (filed : s.Filed)
    (busy : s.settingUp = b.state.settingUp) : Sound (b.put s) where
  moments := List.forall_mem_cons.mpr ⟨leaves.regular filed sound.state, sound.moments⟩
  deeds := sound.deeds
  standing w member := (sound.standing w member).mono leaves busy
  single := sound.single
  explained := sound.explained.put leaves

/-- An errand writes only while no integration is asked for another one. -/
theorem deed (sound : b.Sound) (idle : b.Idle) {p : Party Errand}
    (writes : p.agent.Writes heard b.state s) :
    Sound { b.put s with deeds := ⟨p, heard, b.state, s⟩ :: b.deeds } where
  moments := List.forall_mem_cons.mpr ⟨writes.regular sound.state, sound.moments⟩
  deeds := List.forall_mem_cons.mpr ⟨⟨writes, sound.state.filed⟩, sound.deeds⟩
  standing w member := by
    cases sound.standing w member with
    | queued => exact .queued
    | asking busy awaits waits goes => exact absurd (fun same => nomatch same) (idle _ member)
  single := sound.single
  explained := sound.explained.deed p heard s

/-- An errand that begins to wait asks an integration only if no other one does. -/
theorem await (sound : b.Sound) {w : Pending Errand Registry .hosting (Except RegistryError Unit)}
    (standing : Standing b.state w) (alone : Asking w → b.Idle) : Sound (Chronicle.await b w) where
  moments := sound.moments
  deeds := sound.deeds
  standing := forall_concat sound.standing standing
  single := pairwise_concat sound.single fun v member asking also => alone also v member asking
  explained := { sound.explained with }

/-- An errand in its turn goes on to its end, or to the integration that it asks. -/
theorem follow (sound : b.Sound) (idle : b.Idle) {p : Party Errand}
    {j : Job Registry .hosting (Except RegistryError Unit)}
    (obeys : j.Obeys p.agent.bounds (fun heard _ s => Errand.Entered heard s) heard b.state) :
    Sound (Chronicle.follow p heard j b) ∧
      Touches p.agent.id b.state (Chronicle.follow p heard j b).state ∧
      Errand.Entered heard (Chronicle.follow p heard j b).state := by
  obtain ⟨c, written, stops⟩ := Chronicle.follow_obeys (p := p) obeys
  have kept : Sound c ∧ Idle c ∧ Touches p.agent.id b.state c.state := by
    refine written.keeps (P := fun c => Sound c ∧ Idle c ∧ Touches p.agent.id b.state c.state)
      (fun c s kept writes => ?_) ⟨sound, idle, .refl ..⟩
    obtain ⟨sound, idle, touches⟩ := kept
    have moved := Errand.Writes.touches writes sound.state.filed
    exact ⟨sound.deed idle writes, idle, touches.trans moved⟩
  obtain ⟨sound, idle, touches⟩ := kept
  rcases stops with ⟨q, next, await, waits, goes⟩ | ⟨e, close, entered⟩
  · rw [await]
    cases q with
    | awaitTurn => exact waits.elim
    | setUp asked =>
      obtain ⟨unanswered, busy, _, here, _, _, held⟩ := id waits
      have awaits : c.state.Awaits asked := by
        intro e held' _
        cases held.symm.trans (here ▸ held')
        rfl
      have asking : Standing c.state ⟨p, heard, c.state, .setUp asked, next⟩ :=
        .asking busy awaits waits goes
      exact ⟨sound.await asking fun _ => idle, touches, unanswered.entered _⟩
  · rw [close]
    exact ⟨{ sound with explained := { sound.explained with } }, touches, entered⟩

/-- An errand takes the turn if it is free, and waits for it otherwise. -/
theorem start (sound : b.Sound) (a : Errand) :
    Sound (b.start a a.action.run) ∧ Touches a.id b.state (b.start a a.action.run).state := by
  have begun : Sound { b with begun := b.begun + 1 } :=
    { sound with explained := { sound.explained with } }
  cases turn : b.state.settingUp with
  | false =>
    rw [start_free turn]
    have unanswered : Errand.Unanswered [] := fun _ _ _ last => nomatch last
    have ⟨after, touches, _⟩ := begun.follow (p := ⟨b.begun, a⟩) (sound.idle turn)
      (a.obeys_turn unanswered sound.state)
    exact ⟨after, touches⟩
  | true =>
    rw [start_busy turn]
    exact ⟨begun.await .queued fun asking => absurd rfl asking, .refl ..⟩

/-- An errand goes on when it is given the turn, or when the integration gives its word. -/
theorem reply (sound : b.Sound) {place : Nat}
    {w : Pending Errand Registry .hosting (Except RegistryError Unit)}
    (found : b.pending[place]? = some w) {verdict : Verdict} {answer : w.request.Reply}
    (told : tell b.state verdict w.request = some answer) :
    Sound (b.reply place (tell b.state verdict)) ∧
      Touches w.party.agent.id b.state (b.reply place (tell b.state verdict)).state ∧
      Errand.Entered (w.heard ++ [⟨w.request, answer, b.state⟩])
        (b.reply place (tell b.state verdict)).state := by
  rw [Chronicle.reply_eq found told]
  have member := List.mem_of_getElem? found
  have left : Sound { b with pending := b.pending.eraseIdx place } :=
    { sound with
      standing := fun v remains => sound.standing v (List.mem_of_mem_eraseIdx remains)
      single := sound.single.sublist (List.eraseIdx_sublist ..)
      explained := { sound.explained with } }
  cases sound.standing w member with
  | @queued party since =>
    have free : b.state.settingUp = false := by
      by_contra busy
      cases (if_pos (eq_true_of_ne_false busy)).symm.trans told
    have unanswered : Errand.Unanswered [⟨.awaitTurn, (), b.state⟩] :=
      fun _ _ _ last => nomatch last
    refine left.follow (fun v remains => ?_) (party.agent.obeys_turn unanswered sound.state)
    exact sound.idle free v (List.mem_of_mem_eraseIdx remains)
  | @asking party heard since asked next busy awaits waits goes =>
    refine left.follow (fun v remains asking => ?_) (goes answer b.state ⟨sound.state, awaits⟩)
    have itself : Asking ⟨party, heard, since, .setUp asked, next⟩ := fun same => nomatch same
    rcases pairwise_eraseIdx sound.single found remains with alone | alone
    · exact alone itself asking
    · exact alone asking itself

theorem happen (sound : b.Sound) {occasion : Occasion}
    (adds : ∀ c, occasion = .event (.change c) → AddsUnloaded c) : (b.happen occasion).Sound := by
  have filed := sound.state.filed
  cases occasion with
  | load now =>
    obtain ⟨leaves, filed⟩ := leaves_load filed now
    exact sound.put leaves filed (settingUp_load b.state now)
  | event event =>
    cases event with
    | change c =>
      obtain ⟨leaves, filed⟩ := leaves_change filed (adds c rfl)
      exact sound.put leaves filed (settingUp_change b.state c)
    | errand a => exact (sound.start a).1
    | reply place verdict =>
      rcases b.reply_cases place (tell b.state verdict) with same | ⟨w, answer, found, told, _⟩
      · change Sound (b.reply place (tell b.state verdict))
        rw [same]
        exact sound
      · exact (sound.reply found told).1
    | restart now =>
      obtain ⟨leaves, filed⟩ := leaves_restarted b.state now
      exact {
        moments := List.forall_mem_cons.mpr ⟨leaves.regular filed sound.state, sound.moments⟩
        deeds := sound.deeds
        standing := fun w member => absurd member List.not_mem_nil
        single := .nil
        explained := { sound.explained.put leaves with } }

theorem after (sound : b.Sound) {occasions : List Occasion}
    (adds : ∀ c, .event (.change c) ∈ occasions → AddsUnloaded c) : (b.after occasions).Sound := by
  refine (foldl_induction (motive := fun (v : Book) later =>
    v.Sound ∧ ∀ c, .event (.change c) ∈ later → AddsUnloaded c) ⟨sound, adds⟩
    fun v occasion later ⟨sound, adds⟩ => ⟨sound.happen fun c same => ?_, fun c member => ?_⟩).1
  · exact adds c (same ▸ List.mem_cons_self ..)
  · exact adds c (List.mem_cons_of_mem _ member)

end Sound

theorem sound_opened (disk : Disk) (handled : Std.ExtTreeSet String) :
    (opened disk handled).Sound where
  moments := List.forall_mem_singleton.mpr
    ⟨Catalog.filed_empty, fun id e held => by simp [opened, onDisk, Catalog.get?] at held⟩
  deeds := by simp [opened]
  standing := by simp [opened]
  single := .nil
  explained := .new _

/-- What a registry keeps to over its whole life. -/
structure Orderly (b : Book) : Prop where
  regular : ∀ r ∈ b.seen, ∀ id e, r.get? id = some e → e.Regular
  /-- An integration is asked for an entry that is enabled, and that has just been put in setup. -/
  asked : ∀ w ∈ b.pending, ∀ asked, w.request = .setUp asked →
    asked.disabledBy = none ∧ w.party.agent.id = asked.id ∧ w.party.agent.setsUp = true ∧
      w.since.get? asked.id = some { asked with phase := .setupInProgress, reason := none }
  /-- An entry becomes loaded by a setup or reload of its own, with the word of its integration or
  without one to ask. -/
  loaded : ∀ r s, b.Stepped r s → ∀ id e, s.get? id = some e → e.phase = .loaded →
    (∃ old, r.get? id = some old ∧ old.phase = .loaded) ∨
      ∃ d ∈ b.deeds, d.before = r ∧ d.after = s ∧ d.party.agent.id = id ∧
        d.party.agent.setsUp = true ∧ (e.domain ∉ r.handled ∨
          ∃ asked, asked.id = id ∧ asked.domain = e.domain ∧
            d.heard.getLast? = some ⟨.setUp asked, .ready, r⟩)
  /-- Errands touch only their own entry, in each of their writes and from wait to wait. -/
  deeds : ∀ d ∈ b.deeds, b.Stepped d.before d.after ∧ Touches d.party.agent.id d.before d.after
  errand : ∀ a, Touches a.id b.state (b.happen (.event (.errand a))).state
  reply : ∀ place verdict w, b.pending[place]? = some w →
    Touches w.party.agent.id b.state (b.happen (.event (.reply place verdict))).state
  /-- The word of an integration is entered for the entry as it is by then, if in setup still. -/
  answered : ∀ place verdict w, b.pending[place]? = some w → ∀ asked, w.request = .setUp asked →
    ∀ e, b.state.get? asked.id = some e → e.phase = .setupInProgress →
      (b.happen (.event (.reply place verdict))).state.get? asked.id = some (e.answered verdict)
  update : ∀ r ∈ b.seen, ∀ id u now other,
    ((r.update id u now).1.get? other).map (fun e => (e.phase, e.reason)) =
      (r.get? other).map fun e => (e.phase, e.reason)

theorem Sound.orderly (sound : b.Sound) : b.Orderly where
  regular r seen := (sound.moments r seen).entries
  asked w member asked same := by
    cases sound.standing w member with
    | queued => cases same
    | asking busy awaits waits goes =>
      cases same
      obtain ⟨_, _, setsUp, here, enabled, _, held⟩ := waits
      exact ⟨enabled, here.symm, setsUp, here ▸ held⟩
  loaded r s stepped id e held phase := by
    rcases sound.explained.steps r s stepped with leaves | ⟨d, member, rfl, rfl⟩
    · rcases leaves id e held with ⟨unloaded, _⟩ | ⟨old, before, same⟩
      · cases unloaded.symm.trans phase
      · exact .inl ⟨old, before, same.phase.symm.trans phase⟩
    · obtain ⟨writes, filed⟩ := sound.deeds d member
      refine (writes.loaded filed held phase).imp_right ?_
      rintro ⟨here, setsUp, word⟩
      exact ⟨d, member, rfl, rfl, here, setsUp, word⟩
  deeds d member :=
    have ⟨writes, filed⟩ := sound.deeds d member
    ⟨sound.explained.deeds d member, writes.touches filed⟩
  errand a := (sound.start a).2
  reply place verdict w found := by
    rcases b.reply_cases place (tell b.state verdict) with same | ⟨v, answer, found', told, _⟩
    · rw [Book.happen, same]
      exact .refl ..
    · cases found.symm.trans found'
      exact (sound.reply found told).2.1
  answered place verdict w found asked asks e held inSetup := by
    obtain ⟨party, heard, since, q, next⟩ := w
    cases asks
    have told : tell b.state verdict (.setUp asked) = some verdict := rfl
    have entered := (sound.reply found told).2.2
    exact entered asked verdict b.state e List.getLast?_concat held inSetup
  update r seen := phase_update (sound.moments r seen).filed

end Book

/-- Over every course of events from any file, with integrations that succeed, fail or crash, and
with a storage that may fail, a registry to which entries are added unloaded is orderly. -/
theorem orderly_lifelong (disk : Disk) (handled : Std.ExtTreeSet String)
    (occasions : List Occasion)
    (adds : ∀ e, .event (.change (.mutate (.add e))) ∈ occasions → e.Unloaded) :
    ((Book.opened disk handled).after occasions).Orderly := by
  refine ((Book.sound_opened disk handled).after fun c member => ?_).orderly
  unfold AddsUnloaded
  split
  · exact adds _ member
  · trivial

/-- While its integration is asked to set it up, the lamp is given another title, which it keeps. -/
theorem lampA_retitled :
    let b := (Book.opened {} ∅).after [.event (.change (.handle "light")),
      .event (.change (.mutate (.add lampA))), .event (.errand (.setUp "a")),
      .event (.change (.mutate (.update "a" { title := some "B" } .epoch))),
      .event (.reply 0 .ready)]
    b.Orderly ∧ ∃ e, b.state.get? "a" = some e ∧ e.phase = .loaded ∧ e.title = "B" := by
  refine ⟨orderly_lifelong _ _ _ fun e member => ?_, _, rfl, rfl, rfl⟩
  obtain rfl : e = lampA := by simpa using member
  exact ⟨rfl, rfl⟩

end Onboarding.Registry
