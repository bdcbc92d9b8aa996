import Mathlib.Data.List.Nodup
import Onboarding.Coordinator.Station
import Onboarding.Proofs.Job.Floor

/-! Who is registered with a coordinator: those who hold a handle, and no one else. Listeners are
told with the client they are registered for, and clients may do anything while they are called. -/
namespace Onboarding

namespace Coordinator

variable {L : Type}

/-- Nothing but the outcome of the last fetch differs. -/
def Noted (c d : Coordinator L) : Prop := d = { c with lastSuccess := d.lastSuccess }

theorem always_notifyAll (listeners : List L) :
    (notifyAll listeners).Always (fun _ => True) Noted := by
  induction listeners with
  | nil => exact Job.always_pure ()
  | cons l rest ih =>
    exact Job.always_bind (Job.always_call (F := .refreshing L) (Refreshing.notify l)) fun _ => ih

/-- A refresh notes how the fetch ended, and changes nothing else. -/
theorem always_refresh : (refresh : Work L Unit).Always (fun _ => True) Noted := by
  refine Job.always_bind (Job.always_call (F := .refreshing L) Refreshing.fetch) fun fetched => ?_
  cases fetched with
  | ok =>
    refine Job.always_bind (Job.always_modify fun c _ => ⟨trivial, rfl⟩) fun _ => ?_
    exact Job.always_get_bind fun c => always_notifyAll _
  | failed reason =>
    refine Job.always_bind (Job.always_modify fun c _ => ⟨trivial, rfl⟩) fun _ => ?_
    exact Job.always_get_bind fun c => always_notifyAll _
  | crashed x => exact fun c _ => trivial

end Coordinator

/-- Whom a listener is registered for: who keeps its handle under a name, or an entity. -/
inductive Client where
  | keeper (name : String)
  | entity (name : String)
  deriving DecidableEq

namespace Station

section Clients

variable {L : Type}

/-- The handle that a client holds. -/
def handleOf (s : Station L) : Client → Option Nat
  | .keeper name => s.handles[name]?
  | .entity name => s.entities[name]?.bind Entity.subscription

def clients (s : Station L) : List Client :=
  s.handles.keys.map .keeper ++ s.entities.keys.map .entity

/-- The handles that are held. -/
def held (s : Station L) : List Nat := s.clients.filterMap s.handleOf

theorem nodup_clients (s : Station L) : s.clients.Nodup := by
  unfold clients
  apply List.Nodup.append
  · exact s.handles.nodup_keys.map fun _ _ same => Client.keeper.inj same
  · exact s.entities.nodup_keys.map fun _ _ same => Client.entity.inj same
  · rw [List.disjoint_left]
    simp

theorem mem_held (s : Station L) (h : Nat) : h ∈ s.held ↔ ∃ c, s.handleOf c = some h := by
  unfold held
  rw [List.mem_filterMap]
  constructor
  · rintro ⟨c, _, holds⟩
    exact ⟨c, holds⟩
  · rintro ⟨c, holds⟩
    refine ⟨c, ?_, holds⟩
    cases c with
    | keeper n =>
      have kept : n ∈ s.handles := Std.ExtTreeMap.isSome_getElem?_iff_mem.mp
        (Option.isSome_of_eq_some holds)
      simpa [clients] using kept
    | entity n =>
      obtain ⟨e, placed, _⟩ := Option.bind_eq_some_iff.mp holds
      have kept : n ∈ s.entities := Std.ExtTreeMap.isSome_getElem?_iff_mem.mp
        (Option.isSome_of_eq_some placed)
      simpa [clients] using kept

/-! Giving up a handle changes the coordinator alone. -/

@[simp] theorem giveUp_owned (s : Station L) (h : Option Nat) : (s.giveUp h).owned = s.owned := by
  unfold giveUp
  split
  · rfl
  · split <;> rfl

@[simp] theorem giveUp_handles (s : Station L) (h : Option Nat) :
    (s.giveUp h).handles = s.handles := by
  unfold giveUp
  split
  · rfl
  · split <;> rfl

@[simp] theorem giveUp_entities (s : Station L) (h : Option Nat) :
    (s.giveUp h).entities = s.entities := by
  unfold giveUp
  split
  · rfl
  · split <;> rfl

@[simp] theorem giveUp_isAlive (s : Station L) (h : Option Nat) :
    (s.giveUp h).isAlive = s.isAlive := by
  simp [isAlive]

@[simp] theorem giveUp_handleOf (s : Station L) (h : Option Nat) :
    (s.giveUp h).handleOf = s.handleOf := by
  funext c
  cases c <;> simp [handleOf]

theorem giveUp_gone {s : Station L} (gone : s.isAlive = false) (h : Option Nat) :
    s.giveUp h = s := by
  unfold giveUp
  split
  · rfl
  · simp [gone]

theorem giveUp_listeners {s : Station L} (alive : s.isAlive = true) (h : Option Nat) (g : Nat) :
    (s.giveUp h).coordinator.listeners[g]? =
      if h = some g then none else s.coordinator.listeners[g]? := by
  cases h with
  | none => simp [giveUp]
  | some h => simp [giveUp, alive, Coordinator.release, Std.ExtTreeMap.getElem?_erase]

theorem giveUp_nextHandle (s : Station L) (h : Option Nat) :
    (s.giveUp h).coordinator.nextHandle = s.coordinator.nextHandle := by
  unfold giveUp
  split
  · rfl
  · split <;> rfl

theorem isAlive_iff (s : Station L) : s.isAlive = true ↔ s.owned = true ∨ s.entities ≠ ∅ := by
  simp [isAlive]

/-! Each operation is on the handle of one client. -/

variable {s t : Station L} {name : String}

theorem handleOf_keep {h : Nat} (handles : t.handles = s.handles.insert name h)
    (entities : t.entities = s.entities) :
    t.handleOf = Function.update s.handleOf (.keeper name) (some h) := by
  funext c
  cases c with
  | keeper n =>
    by_cases same : name = n
    · simp [handleOf, handles, same]
    · simp [handleOf, handles, Std.ExtTreeMap.getElem?_insert, same, Ne.symm same]
  | entity n => simp [handleOf, entities]

theorem handleOf_forget (handles : t.handles = s.handles.erase name)
    (entities : t.entities = s.entities) :
    t.handleOf = Function.update s.handleOf (.keeper name) none := by
  funext c
  cases c with
  | keeper n =>
    by_cases same : name = n
    · simp [handleOf, handles, same]
    · simp [handleOf, handles, Std.ExtTreeMap.getElem?_erase, same, Ne.symm same]
  | entity n => simp [handleOf, entities]

/-- The entity of a name is another now, or none. -/
theorem handleOf_entity (name : String) (e : Option Entity) (handles : t.handles = s.handles)
    (entities : ∀ n, t.entities[n]? = if name = n then e else s.entities[n]?) :
    t.handleOf = Function.update s.handleOf (.entity name) (e.bind Entity.subscription) := by
  funext c
  cases c with
  | keeper n => simp [handleOf, handles]
  | entity n =>
    by_cases same : name = n
    · simp [handleOf, entities, same]
    · simp [handleOf, entities, same, Ne.symm same]

theorem handleOf_modify {handle : Option Nat} (placed : handle = none ∨ name ∈ s.entities)
    (handles : t.handles = s.handles)
    (entities : t.entities = s.entities.modify name ({ · with subscription := handle })) :
    t.handleOf = Function.update s.handleOf (.entity name) handle := by
  have modified := handleOf_entity name (s.entities[name]?.map ({ · with subscription := handle }))
    handles fun n => by
      by_cases same : name = n
      · simp [entities, same]
      · simp [entities, Std.ExtTreeMap.getElem?_modify, same]
  rw [modified]
  congr 1
  cases found : s.entities[name]? with
  | none => simpa [Std.ExtTreeMap.mem_iff_isSome_getElem?, found, eq_comm] using placed
  | some e => rfl

end Clients

variable {L : Type}

/-- What is done to a station at once, by clients and by the owner. -/
inductive Move (L : Type) where
  | listen (name : String) (l : L)
  | release (name : String)
  | place (name : String) (e : Entity) (unsubscribed : e.subscription = none)
  | drop (name : String)
  | subscribe (name : String) (l : L)
  | unsubscribe (name : String)
  | disown

namespace Move

def apply (s : Station (Client × L)) : Move L → Station (Client × L)
  | listen name l => s.listen name (.keeper name, l)
  | release name => (s.release name).1
  | place name e _ => s.placeEntity name e
  | drop name => (s.dropEntity name).1
  | subscribe name l => s.subscribe name (.entity name, l)
  | unsubscribe name => s.unsubscribe name
  | disown => s.disown

/-- New listeners and entities need the coordinator, and who refreshes holds on to it until the
refresh has ended. -/
def possible (refreshing : Bool) (s : Station (Client × L)) : Move L → Bool
  | listen _ _ | place _ _ _ => s.isAlive
  | drop name => !refreshing || (s.dropEntity name).1.isAlive
  | disown => !refreshing || s.disown.isAlive
  | _ => true

end Move

inductive Event (L : Type) where
  | move (m : Move L)
  /-- The coordinator refreshes, for an entity or for another who holds it. -/
  | refresh
  /-- The refresh in a given place among those that wait goes on. -/
  | reply (place : Nat) (say : ∀ q : Refreshing (Client × L), Option q.Reply)

/-- A station with its past and with the refreshes that wait for a fetch or for a listener. -/
abbrev Course (L : Type) := Floor (Station (Client × L)) (.refreshing (Client × L))

namespace Course

def opened (name : String) : Course L := { state := { coordinator := { name } } }

def happen (f : Course L) : Event L → Course L
  | .move m => if m.possible (!f.waiting.isEmpty) f.state then f.put (m.apply f.state) else f
  | .refresh => if f.state.isAlive then f.run Station.refresh else f
  | .reply place say => f.reply place say

def after (f : Course L) (events : List (Event L)) : Course L := events.foldl happen f

end Course

/-- The listeners are those of the handles that are held, each under the client that holds it. -/
structure Accounted (s : Station (Client × L)) : Prop where
  held : ∀ c h, s.handleOf c = some h ↔ ∃ l, s.coordinator.listeners[h]? = some (c, l)
  below : ∀ h ∈ s.coordinator.listeners, h < s.coordinator.nextHandle

namespace Accounted

variable {s t : Station (Client × L)} {c : Client}

theorem unique (kept : s.Accounted) {d : Client} {h : Nat} (one : s.handleOf c = some h)
    (other : s.handleOf d = some h) : c = d := by
  obtain ⟨l, first⟩ := (kept.held c h).mp one
  obtain ⟨k, second⟩ := (kept.held d h).mp other
  rw [first] at second
  cases second
  rfl

theorem mem_iff (kept : s.Accounted) (h : Nat) :
    h ∈ s.coordinator.listeners ↔ ∃ c, s.handleOf c = some h := by
  constructor
  · intro registered
    obtain ⟨⟨c, l⟩, found⟩ := Option.isSome_iff_exists.mp
      (Std.ExtTreeMap.isSome_getElem?_iff_mem.mpr registered)
    exact ⟨c, (kept.held c h).mpr ⟨l, found⟩⟩
  · rintro ⟨c, holds⟩
    obtain ⟨l, found⟩ := (kept.held c h).mp holds
    exact Std.ExtTreeMap.mem_iff_isSome_getElem?.mpr (by simp [found])

/-- A client leaves with its handle. -/
theorem quit (kept : s.Accounted) (alive : t.isAlive = true)
    (handles : t.handleOf = Function.update s.handleOf c none)
    (coordinator : t.coordinator = s.coordinator) : (t.giveUp (s.handleOf c)).Accounted := by
  have listeners := giveUp_listeners alive (s.handleOf c)
  rw [coordinator] at listeners
  constructor
  · intro d h
    rw [giveUp_handleOf, handles, listeners]
    by_cases same : d = c
    · subst same
      rw [Function.update_self]
      split
      · simp
      · rename_i another
        rw [← kept.held d h]
        simp [another]
    · rw [Function.update_of_ne same]
      split
      · rename_i its
        simp only [reduceCtorEq, exists_false, iff_false]
        exact fun holds => same (kept.unique holds its)
      · exact kept.held d h
  · intro h registered
    rw [giveUp_nextHandle, coordinator]
    apply kept.below
    rw [Std.ExtTreeMap.mem_iff_isSome_getElem?, listeners] at registered
    split at registered
    · simp at registered
    · exact Std.ExtTreeMap.mem_iff_isSome_getElem?.mpr registered

/-- A client registers anew and gives up the handle it had. -/
theorem join (kept : s.Accounted) {l : L} (alive : t.isAlive = true)
    (handles : t.handleOf = Function.update s.handleOf c (some s.coordinator.nextHandle))
    (coordinator : t.coordinator = (s.coordinator.listen (c, l)).1) :
    (t.giveUp (s.handleOf c)).Accounted := by
  have unused : ∀ d, s.handleOf d ≠ some s.coordinator.nextHandle := fun d holds =>
    Nat.lt_irrefl _ (kept.below _ ((kept.mem_iff _).mpr ⟨d, holds⟩))
  have listeners : ∀ g, (t.giveUp (s.handleOf c)).coordinator.listeners[g]? =
      if s.handleOf c = some g then none
      else if s.coordinator.nextHandle = g then some (c, l) else s.coordinator.listeners[g]? := by
    intro g
    rw [giveUp_listeners alive, coordinator]
    simp [Coordinator.listen, Std.ExtTreeMap.getElem?_insert]
  constructor
  · intro d h
    rw [giveUp_handleOf, handles, listeners]
    by_cases fresh : s.coordinator.nextHandle = h
    · subst fresh
      rw [if_neg (unused c), if_pos rfl]
      by_cases same : d = c
      · simp [same]
      · rw [Function.update_of_ne same]
        simp [unused d, Ne.symm same]
    · rw [if_neg fresh]
      by_cases same : d = c
      · subst same
        rw [Function.update_self]
        split
        · simp [fresh]
        · rename_i another
          rw [← kept.held d h]
          simp [fresh, another]
      · rw [Function.update_of_ne same]
        split
        · rename_i its
          simp only [reduceCtorEq, exists_false, iff_false]
          exact fun holds => same (kept.unique holds its)
        · exact kept.held d h
  · intro h registered
    rw [giveUp_nextHandle, coordinator]
    show h < s.coordinator.nextHandle + 1
    rw [Std.ExtTreeMap.mem_iff_isSome_getElem?, listeners] at registered
    split at registered
    · simp at registered
    · split at registered
      · omega
      · have := kept.below h (Std.ExtTreeMap.mem_iff_isSome_getElem?.mpr registered)
        omega

/-- Nothing but the outcome of a fetch is noted. -/
theorem noted (kept : s.Accounted) (clients : t.handleOf = s.handleOf)
    (listeners : t.coordinator.listeners = s.coordinator.listeners)
    (next : t.coordinator.nextHandle = s.coordinator.nextHandle) : t.Accounted := by
  refine ⟨?_, ?_⟩
  · rw [clients, listeners]
    exact kept.held
  · rw [listeners, next]
    exact kept.below

end Accounted

/-- A station that is gone stays so, and its listeners stay as they were. -/
def Gone (s t : Station (Client × L)) : Prop :=
  s.isAlive = false → t.isAlive = false ∧ t.coordinator.listeners = s.coordinator.listeners

theorem Gone.trans {s t u : Station (Client × L)} (first : Gone s t) (second : Gone t u) :
    Gone s u := by
  intro gone
  obtain ⟨still, same⟩ := first gone
  obtain ⟨always, others⟩ := second still
  exact ⟨always, others.trans same⟩

instance : Trans (fun later earlier : Station (Client × L) => Gone earlier later)
    (fun later earlier => Gone earlier later) (fun later earlier => Gone earlier later) :=
  ⟨fun second first => first.trans second⟩

namespace Move

variable {s : Station (Client × L)} {refreshing : Bool}

theorem gone {m : Move L} (possible : m.possible refreshing s = true) : Gone s (m.apply s) := by
  intro gone
  obtain ⟨disowned, empty⟩ : s.owned = false ∧ s.entities = ∅ := by simpa [isAlive] using gone
  cases m with
  | listen name l => simp [Move.possible, gone] at possible
  | place name e unsubscribed => simp [Move.possible, gone] at possible
  | release name =>
    rw [apply, Station.release, giveUp_gone (s := { s with handles := s.handles.erase name }) gone]
    exact ⟨gone, rfl⟩
  | drop name => simp [apply, dropEntity, empty, disowned, giveUp, isAlive]
  | subscribe name l => simp [apply, Station.subscribe, empty, gone]
  | unsubscribe name =>
    simp [apply, Station.unsubscribe, resubscribe, empty, disowned, giveUp, isAlive]
  | disown => simp [apply, Station.disown, empty, isAlive]

/-- Whatever is done, the listeners are those of the handles that are held. -/
theorem accounted {m : Move L} (kept : s.isAlive = true → s.Accounted)
    (possible : m.possible refreshing s = true) (alive : (m.apply s).isAlive = true) :
    (m.apply s).Accounted := by
  have before : s.isAlive = true := by
    by_contra gone
    simp [(Move.gone possible (by simpa using gone)).1] at alive
  have kept := kept before
  cases m with
  | listen name l =>
    exact kept.join (c := .keeper name) (l := l)
      (t := { s with
        coordinator := (s.coordinator.listen (.keeper name, l)).1
        handles := s.handles.insert name s.coordinator.nextHandle })
      before (handleOf_keep rfl rfl) rfl
  | release name => exact kept.quit (c := .keeper name) before (handleOf_forget rfl rfl) rfl
  | place name e unsubscribed =>
    refine kept.quit (c := .entity name) ?_ ?_ rfl
    · exact (isAlive_iff _).mpr (.inr (by simp))
    · rw [← unsubscribed]
      exact handleOf_entity name (some e) rfl fun n => by simp [Std.ExtTreeMap.getElem?_insert]
  | drop name =>
    refine kept.quit (c := .entity name) (by simpa [apply, dropEntity] using alive) ?_ rfl
    exact handleOf_entity name none rfl fun n => by simp [Std.ExtTreeMap.getElem?_erase]
  | subscribe name l =>
    by_cases placed : name ∈ s.entities
    · rw [apply, Station.subscribe, if_pos placed] at alive ⊢
      refine kept.join (c := .entity name) (l := l) ((giveUp_isAlive _ _).symm.trans alive) ?_ rfl
      exact handleOf_modify (.inr placed) rfl rfl
    · simpa [apply, Station.subscribe, placed] using kept
  | unsubscribe name =>
    refine kept.quit (c := .entity name) ?_ (handleOf_modify (.inl rfl) rfl rfl) rfl
    exact (giveUp_isAlive _ _).symm.trans alive
  | disown => exact kept.noted rfl rfl rfl

end Move

/-! A refresh leaves the listeners alone. -/

theorem keeps_refresh : (refresh : Work (Client × L) Unit).Always
    (fun s => s.isAlive = true → s.Accounted) Gone := by
  intro s start
  refine Job.keeps_within (fun _ _ => rfl) ?_ (fun q => Job.always_call q) start
    (Coordinator.always_refresh s.coordinator trivial)
  intro t c kept noted
  refine ⟨fun alive => ?_, fun gone => ⟨gone, ?_⟩⟩
  · exact (kept alive).noted rfl (by rw [noted]) (by rw [noted])
  · rw [noted]

namespace Course

/-- As long as the coordinator is there it knows who holds a handle, and nothing happens to one
that is gone. -/
abbrev Orderly (f : Course L) : Prop := f.Keeps (fun s => s.isAlive = true → s.Accounted) Gone

theorem orderly_opened (name : String) : (opened name : Course L).Orderly := by
  refine Floor.keeps_start fun _ => ⟨?_, ?_⟩
  · intro c h
    cases c <;> simp [handleOf]
  · simp

variable {f : Course L}

theorem Orderly.happen (orderly : f.Orderly) (event : Event L) : (f.happen event).Orderly := by
  cases event with
  | move m =>
    by_cases possible : m.possible (!f.waiting.isEmpty) f.state = true
    · rw [Course.happen, if_pos possible]
      exact orderly.put (Move.accounted orderly.state possible) (Move.gone possible)
    · rwa [Course.happen, if_neg possible]
  | refresh =>
    by_cases alive : f.state.isAlive = true
    · rw [Course.happen, if_pos alive]
      exact orderly.run (keeps_refresh _ orderly.state)
    · rwa [Course.happen, if_neg alive]
  | reply place say => exact orderly.reply place say

theorem Orderly.after (orderly : f.Orderly) (events : List (Event L)) :
    (f.after events).Orderly :=
  foldl_induction (motive := fun (g : Course L) _ => g.Orderly) orderly
    fun _ event _ orderly => orderly.happen event

end Course

/-- The listeners of `t` are those of `s` but for those of a client. -/
def Without (c : Client) (s t : Station (Client × L)) : Prop :=
  ∀ h : Nat, t.coordinator.listeners[h]? =
    s.coordinator.listeners[h]?.filter fun registration => registration.1 ≠ c

/-- The listeners are those of the handles that are held, and each goes with its handle alone. -/
structure Exact (s : Station (Client × L)) : Prop extends s.Accounted where
  registered : s.coordinator.listeners.keys.Perm s.held
  distinct : s.held.Nodup
  size : s.coordinator.size = s.held.length
  subscribed : ∀ (name : String) (e : Entity), s.entities[name]? = some e →
    (e.isSubscribed = true ↔
      ∃! h : Nat, ∃ l : L, s.coordinator.listeners[h]? = some (.entity name, l))
  unsubscribed : ∀ (name : String) (e : Entity), s.entities[name]? = some e →
    e.isSubscribed = false →
      ∀ (h : Nat) (l : L), s.coordinator.listeners[h]? ≠ some (.entity name, l)
  release : ∀ name, Without (.keeper name) s (s.release name).1
  unsubscribe : ∀ name, Without (.entity name) s (s.unsubscribe name)
  drop : ∀ name, (s.dropEntity name).1.isAlive = true →
    Without (.entity name) s (s.dropEntity name).1

namespace Accounted

variable {s t : Station (Client × L)} {c : Client}

theorem nodup_held (kept : s.Accounted) : s.held.Nodup :=
  s.nodup_clients.filterMap fun _ _ _ one other => kept.unique one other

theorem keys_held (kept : s.Accounted) : s.coordinator.listeners.keys.Perm s.held := by
  rw [List.perm_ext_iff_of_nodup s.coordinator.listeners.nodup_keys kept.nodup_held]
  intro h
  rw [Std.ExtTreeMap.mem_keys, kept.mem_iff, s.mem_held]

/-- Who gives up a handle takes along the one listener that is registered for it. -/
theorem without (kept : s.Accounted) (alive : t.isAlive = true)
    (coordinator : t.coordinator = s.coordinator) : Without c s (t.giveUp (s.handleOf c)) := by
  intro h
  rw [giveUp_listeners alive, coordinator]
  cases found : s.coordinator.listeners[h]? with
  | none => simp
  | some registration =>
    obtain ⟨d, l⟩ := registration
    have holds := (kept.held d h).mpr ⟨l, found⟩
    by_cases same : d = c
    · subst same
      simp [holds, Option.filter]
    · have another : s.handleOf c ≠ some h := fun its => same (kept.unique holds its)
      simp [another, same, Option.filter]

theorem isSubscribed_iff (kept : s.Accounted) {name : String} {e : Entity}
    (placed : s.entities[name]? = some e) :
    e.isSubscribed = true ↔
      ∃! h : Nat, ∃ l : L, s.coordinator.listeners[h]? = some (.entity name, l) := by
  have holds : s.handleOf (.entity name) = e.subscription := by simp [handleOf, placed]
  constructor
  · intro subscribed
    obtain ⟨h, its⟩ := Option.isSome_iff_exists.mp subscribed
    refine ⟨h, (kept.held _ h).mp (holds.trans its), fun g registered => ?_⟩
    have := (kept.held _ g).mpr registered
    rw [holds, its] at this
    exact (Option.some.inj this).symm
  · rintro ⟨h, registered, _⟩
    have := (kept.held _ h).mpr registered
    rw [holds] at this
    simp [Entity.isSubscribed, this]

theorem exact (kept : s.Accounted) (alive : s.isAlive = true) : s.Exact where
  toAccounted := kept
  registered := kept.keys_held
  distinct := kept.nodup_held
  size := Std.ExtTreeMap.length_keys.symm.trans kept.keys_held.length_eq
  subscribed name e placed := kept.isSubscribed_iff placed
  unsubscribed name e placed unsubscribed h l registered := by
    have holds := (kept.held _ h).mpr ⟨l, registered⟩
    simp_all [handleOf, Entity.isSubscribed]
  release name := kept.without (c := .keeper name) alive rfl
  unsubscribe name := kept.without (c := .entity name) (by simpa [isAlive_iff] using alive) rfl
  drop name still := kept.without (c := .entity name) ((giveUp_isAlive _ _).symm.trans still) rfl

end Accounted

/-- At every moment of every run, the listeners of a coordinator are those whose handles are held,
each with a handle of its own; a handle that is given up takes its own listener along and no
other, and nothing at all once the coordinator is gone. -/
theorem listeners_held (name : String) (events : List (Event L)) :
    (∀ s ∈ ((Course.opened name).after events).seen, s.isAlive = true → s.Exact) ∧
      ((Course.opened name).after events).seen.Pairwise
        fun later earlier => Gone earlier later := by
  have orderly := (Course.orderly_opened name).after events
  constructor
  · intro s moment alive
    exact (orderly.moments s moment alive).exact alive
  · exact List.isChain_iff_pairwise.mp orderly.steps

namespace Course

def answer : ∀ q : Refreshing (Client × L), Option q.Reply
  | .fetch => some .ok
  | .notify _ => some ()

/-- An entity subscribes a second time while the listeners of a refresh are called; one listener
leaves meanwhile and another comes, and the owner lets go. -/
def crowded : List (Event Unit) :=
  [.move (.place "hall" { domain := "inels", deviceId := "sw-01", deviceType := "Switch" } rfl),
    .move (.subscribe "hall" ()), .move (.listen "log" ()), .refresh, .reply 0 answer,
    .move (.subscribe "hall" ()), .move (.release "log"), .move (.listen "panel" ()),
    .reply 0 answer, .reply 0 answer, .move .disown]

end Course

theorem listeners_held_crowded :
    ((Course.opened "hub").after Course.crowded).state.isAlive = true ∧
      ((Course.opened "hub").after Course.crowded).state.coordinator.size = 2 ∧
      ((Course.opened "hub").after Course.crowded).state.Exact :=
  ⟨by decide, by decide,
    (listeners_held "hub" Course.crowded).1 _ List.mem_cons_self (by decide)⟩

end Station

end Onboarding
