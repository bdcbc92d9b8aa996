import Onboarding.Proofs.Camera.Attempt

/-! What a session knows of its device over any number of logins and logouts, while the device
changes as it likes. The unique id is that of the latest login that has succeeded; a login that
fails or crashes leaves it as it was, though the client speaks of the device that it has met by
then, and so does a logout. -/
namespace Onboarding

/-- What a program comes to with given answers to all that it may ask. -/
def Prog.against {S : Signature} {α : Type} (answers : ∀ q : S.Request, S.Reply q) :
    Prog S α → Except Crash α
  | done a => .ok a
  | crash x => .error x
  | ask q next => (next (answers q)).against answers

namespace Camera.Session

inductive Call where
  | start
  | stop

/-- A call on a session, and the device as it is at that time. -/
structure Visit where
  call : Call
  answers : ∀ q : Exchange, q.Reply

/-- What has come of a visit: how its login ended, if it was one, and the session from then on. -/
structure Turn where
  visit : Visit
  ending : Option Ending
  session : Session

def perform (s : Session) : Call → Prog device (Option Ending × Session)
  | .start => do
    let (s, ending) ← s.start
    return (some ending, s)
  | .stop => do
    s.stop
    return (none, s)

def turn (s : Session) (v : Visit) : Except Crash Turn := do
  let (ending, s) ← (s.perform v.call).against v.answers
  return ⟨v, ending, s⟩

/-- One visit after the other. -/
def turns (s : Session) : List Visit → Except Crash (List Turn)
  | [] => return []
  | v :: rest => do
    let t ← s.turn v
    return t :: (← t.session.turns rest)

/-- The session that the turns leave behind. -/
def last (s : Session) : List Turn → Session
  | [] => s
  | t :: rest => t.session.last rest

/-- What the device told the login of a turn. -/
def Turn.handshake (t : Turn) : Handshake := t.visit.answers (.handshake t.session.client)

def Turn.Succeeds (t : Turn) : Prop := t.ending = some .succeeded

/-- The session knows the device of a handshake, by which its account may change settings. -/
structure Recognizes (s : Session) (h : Handshake) : Prop where
  admin : h.report.isAdmin = true
  known : ∃ address, h.report.address = some address ∧
    s.uniqueId = some (Device.canonicalAddress address)

variable {s : Session} {t : Turn} {turns before later : List Turn}

theorem last_append (s : Session) (before later : List Turn) :
    s.last (before ++ later) = (s.last before).last later := by
  induction before generalizing s with
  | nil => rfl
  | cons t rest ih => exact ih t.session

/-! One turn. -/

/-- Only a login that has succeeded makes anything known. -/
theorem afterHandshake_cases (s : Session) (h : Handshake) :
    ((s.afterHandshake h).2 = .succeeded ∧ (s.afterHandshake h).1.Recognizes h) ∨
      (s.afterHandshake h).2 ≠ .succeeded ∧ (s.afterHandshake h).1.uniqueId = s.uniqueId := by
  unfold afterHandshake
  cases h.ending with
  | failed f => exact .inr ⟨nofun, rfl⟩
  | crashed x => exact .inr ⟨nofun, rfl⟩
  | succeeded =>
    cases reported : h.report.address with
    | none => exact .inr ⟨nofun, rfl⟩
    | some address =>
      dsimp only
      split
      · rename_i admin
        exact .inl ⟨rfl, admin, address, reported, rfl⟩
      · exact .inr ⟨nofun, rfl⟩

theorem turn_start (s : Session) (answers : ∀ q : Exchange, q.Reply) :
    s.turn ⟨.start, answers⟩ = .ok
      ⟨⟨.start, answers⟩, some (s.afterHandshake (answers (.handshake s.client))).2,
        (s.afterHandshake (answers (.handshake s.client))).1⟩ := rfl

theorem turn_stop (s : Session) (answers : ∀ q : Exchange, q.Reply) :
    s.turn ⟨.stop, answers⟩ = .ok ⟨⟨.stop, answers⟩, none, s⟩ := rfl

theorem exists_turn (s : Session) (v : Visit) : ∃ t, s.turn v = .ok t ∧ t.visit = v := by
  obtain ⟨_ | _, answers⟩ := v
  · exact ⟨_, s.turn_start answers, rfl⟩
  · exact ⟨_, s.turn_stop answers, rfl⟩

theorem turn_cases (turned : s.turn t.visit = .ok t) :
    t.Succeeds ∧ t.session.Recognizes t.handshake ∨
      ¬ t.Succeeds ∧ t.session.uniqueId = s.uniqueId := by
  obtain ⟨⟨_ | _, answers⟩, ending, after⟩ := t
  · rw [turn_start] at turned
    cases turned
    rw [Turn.Succeeds, Turn.handshake, client_afterHandshake, Option.some.injEq]
    exact afterHandshake_cases s _
  · rw [turn_stop] at turned
    cases turned
    exact .inr ⟨nofun, rfl⟩

/-! Any number of turns. -/

/-- Each turn sets out from the session that the one before it has left. -/
def Follows (s : Session) : List Turn → Prop
  | [] => True
  | t :: rest => s.turn t.visit = .ok t ∧ t.session.Follows rest

/-- Every call comes to an end, whatever the device answers. -/
theorem exists_turns (s : Session) (visits : List Visit) :
    ∃ turns, s.turns visits = .ok turns ∧ turns.map Turn.visit = visits ∧ s.Follows turns := by
  induction visits generalizing s with
  | nil => exact ⟨[], rfl, rfl, trivial⟩
  | cons v rest ih =>
    obtain ⟨t, turned, rfl⟩ := s.exists_turn v
    obtain ⟨turns, others, visited, follows⟩ := ih t.session
    refine ⟨t :: turns, ?_, by rw [List.map_cons, visited], turned, follows⟩
    rw [Session.turns, turned]
    change (t.session.turns rest >>= fun turns => pure (t :: turns)) = _
    rw [others]
    rfl

theorem Follows.split (follows : s.Follows (before ++ t :: later)) :
    (s.last before).turn t.visit = .ok t ∧ t.session.Follows later := by
  induction before generalizing s with
  | nil => exact follows
  | cons u rest ih => exact ih follows.2

/-- Turns without a success leave the unique id as it was. -/
theorem Follows.uniqueId_last (follows : s.Follows turns) (none : ∀ t ∈ turns, ¬ t.Succeeds) :
    (s.last turns).uniqueId = s.uniqueId := by
  induction turns generalizing s with
  | nil => rfl
  | cons t rest ih =>
    obtain ⟨turned, follows⟩ := follows
    obtain ⟨succeeds, _⟩ | ⟨_, kept⟩ := turn_cases turned
    · exact absurd succeeds (none t List.mem_cons_self)
    · exact (ih follows fun u later => none u (List.mem_cons_of_mem t later)).trans kept

/-- A device is known when it was before or a login has succeeded since. -/
theorem Follows.known_last (follows : s.Follows turns) :
    (s.last turns).uniqueId.isSome ↔ s.uniqueId.isSome ∨ ∃ t ∈ turns, t.Succeeds := by
  induction turns generalizing s with
  | nil => simp [last]
  | cons t rest ih =>
    obtain ⟨turned, follows⟩ := follows
    rw [last, ih follows]
    obtain ⟨succeeds, recognizes⟩ | ⟨fails, kept⟩ := turn_cases turned
    · obtain ⟨_, address, _, known⟩ := recognizes
      simp [known, succeeds]
    · simp [kept, fails]

/-- What a session knows after its turns, and what it says of that. -/
structure Identifies (s : Session) (turns : List Turn) : Prop where
  known : (s.last turns).uniqueId.isSome ↔ ∃ t ∈ turns, t.Succeeds
  latest : ∀ {before later : List Turn} {t : Turn}, turns = before ++ t :: later → t.Succeeds →
    (∀ u ∈ later, ¬ u.Succeeds) → (s.last turns).Recognizes t.handshake
  kept : ∀ {before later : List Turn} {t : Turn}, turns = before ++ t :: later → ¬ t.Succeeds →
    t.session.uniqueId = (s.last before).uniqueId
  listed : ∀ uniqueId, (s.last turns).uniqueId = some uniqueId →
    (s.last turns).deviceInfo.identifiers = [⟨domain, uniqueId⟩]
  unlisted : (s.last turns).uniqueId = none → (s.last turns).deviceInfo.identifiers = []
  /-- Nothing that is told of the device is missing right after a success. -/
  identified : ∀ {before : List Turn} {t : Turn}, turns = before ++ [t] → t.Succeeds →
    ∃ i, (s.last turns).identify = .ok i ∧ (s.last turns).uniqueId = some i.uniqueId

theorem Follows.identifies (follows : s.Follows turns) (unknown : s.uniqueId = none) :
    s.Identifies turns := by
  have latest {before later : List Turn} {t : Turn} (split : turns = before ++ t :: later)
      (succeeds : t.Succeeds) (none : ∀ u ∈ later, ¬ u.Succeeds) :
      (s.last turns).Recognizes t.handshake := by
    subst split
    obtain ⟨turned, follows⟩ := follows.split
    obtain ⟨_, admin, address, reported, known⟩ | ⟨fails, _⟩ := turn_cases turned
    · refine ⟨admin, address, reported, ?_⟩
      rw [last_append]
      exact (follows.uniqueId_last none).trans known
    · exact absurd succeeds fails
  exact {
    known := by simpa [unknown] using follows.known_last
    latest
    kept := fun {before t later} split fails => by
      subst split
      obtain ⟨succeeds, _⟩ | ⟨_, kept⟩ := turn_cases follows.split.1
      · exact absurd succeeds fails
      · exact kept
    listed := fun uniqueId known => by simp [deviceInfo, known]
    unlisted := fun unknown => by simp [deviceInfo, unknown]
    identified := fun {before t} split succeeds => by
      obtain ⟨_, address, _, known⟩ := latest split succeeds (List.forall_mem_nil _)
      exact ⟨_, by rw [identify, known], known⟩ }

/-- Whatever is called on a session, and whatever the device answers, all calls come to an end, and
the session knows the device of the latest login that has succeeded. -/
theorem identity_of_visits (data options : Data) (answers : ∀ q : Exchange, q.Reply)
    (visits : List Visit) : ∃ s turns, (create data options).against answers = .ok s ∧
      s.turns visits = .ok turns ∧ turns.map Turn.visit = visits ∧ s.Identifies turns := by
  let c : Client := answers (.client (.ofEntry data options))
  obtain ⟨turns, turned, visited, follows⟩ :=
    exists_turns { client := c.number, report := c.report } visits
  exact ⟨_, turns, rfl, turned, visited, follows.identifies rfl⟩

end Camera.Session

end Onboarding
