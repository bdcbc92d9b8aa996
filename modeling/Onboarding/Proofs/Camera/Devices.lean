import Onboarding.Proofs.Camera.Attended
import Onboarding.Proofs.Flow.Aborted
import Onboarding.Proofs.Device.Address
import Onboarding.Proofs.Registry.Exactness

/-! One entry for one device. However the flows of cameras come between each other, all entries are
under addresses that devices have reported, no two of them under spellings of one address, and while
a device is registered no flow onboards it again. -/
namespace Onboarding

namespace Registry

/-- Entries keep their unique ids, but for updates that give them another one. -/
theorem Mutation.Step.identity {c planned : Catalog} {m : Mutation} (step : m.Step c planned)
    (filed : c.Filed) (keeps : ∀ id u now, m = .update id u now → u.uniqueId = none) {id : String}
    {e : Entry} (held : planned.get? id = some e) :
    m = .add e ∨ ∃ old, c.get? id = some old ∧ e.identity? = old.identity? := by
  rcases step.origin filed held with added | ⟨old, before, rfl | ⟨u, now, rfl, changed⟩⟩
  · exact .inl added
  · exact .inr ⟨e, before, rfl⟩
  · have identity := old.apply_identity? u now
    rw [changed, keeps id u now rfl] at identity
    exact .inr ⟨old, before, identity⟩

end Registry

namespace Camera

open Desk

variable {M : String → Prop} {d t : Desk Memory} {e : Entry} {m : String}

/-- The entry is of the device with an address. -/
def HasAddress (e : Entry) (m : String) : Prop :=
  e.identity? = some ⟨domain, Device.canonicalAddress m⟩

/-- The look-ups are complete, and all entries are of devices whose addresses have `M`. -/
structure Catalogued (M : String → Prop) (d : Desk Memory) : Prop where
  orderly : d.Orderly
  indexed : d.registry.Indexed
  found : d.registry.Found
  addressed : ∀ (id : String) (e : Entry), d.registry.get? id = some e → ∃ m, M m ∧ HasAddress e m

theorem Catalogued.change (catalogued : Catalogued M d) {c : Registry.Change} (admits : d.Admits c)
    (keeps : ∀ id u now, c = .mutate (.update id u now) → u.uniqueId = none)
    (adds : ∀ e, c = .mutate (.add e) → ∃ m, M m ∧ HasAddress e m)
    (registry : t.registry = c.apply d.registry) (issued : t.issued = d.issued) :
    Catalogued M t := by
  have orderly := catalogued.orderly.change admits registry issued
  rcases c.catalog d.registry with same | ⟨mutation, rfl, step⟩
  · rw [← registry] at same
    exact ⟨orderly, same ▸ catalogued.indexed, same ▸ catalogued.found, same ▸ catalogued.addressed⟩
  rw [← registry] at step
  have spares : d.registry.Spares (.mutate mutation) := by
    cases mutation with
    | update id u now =>
      intro old uniqueId _ given
      cases (keeps id u now rfl).symm.trans given
    | _ => trivial
  have fresh : Registry.Fresh d.registry (.mutate mutation) := by
    cases mutation with
    | add e => exact admits.1
    | _ => trivial
  have ⟨indexed, found⟩ := Registry.upkeep_exact.step ⟨catalogued.indexed, catalogued.found⟩
    ⟨fresh, spares⟩ step
  refine ⟨orderly, indexed, found, fun id e held => ?_⟩
  rcases step.identity catalogued.orderly.filed
    (fun id u now same => keeps id u now (same ▸ rfl)) held
    with rfl | ⟨old, before, same⟩
  · exact adds e rfl
  · obtain ⟨m, known, address⟩ := catalogued.addressed id old before
    exact ⟨m, known, same.trans address⟩

theorem welcomes_catalogued (M : String → Prop) : Welcomes (Catalogued M) M where
  aside catalogued registry issued :=
    ⟨catalogued.orderly.move (.aside registry issued), registry ▸ catalogued.indexed,
      registry ▸ catalogued.found, registry ▸ catalogued.addressed⟩
  draw {d} catalogued := ⟨catalogued.orderly.move (.issue d), catalogued.indexed, catalogued.found,
    catalogued.addressed⟩
  onboard {d e m} catalogued known given address := by
    have drawn : Catalogued M d.issue.2 :=
      ⟨catalogued.orderly.move (.issue d), catalogued.indexed, catalogued.found,
        catalogued.addressed⟩
    refine drawn.change (catalogued.orderly.admits given) (by rintro _ _ _ ⟨⟩) ?_ rfl rfl
    rintro e ⟨⟩
    exact ⟨m, known, address⟩
  renew {d u} id now catalogued keeps := by
    refine catalogued.change (c := .mutate (.update id u now)) trivial ?_ (by rintro _ ⟨⟩) rfl rfl
    rintro _ _ _ ⟨⟩
    exact keeps
  lifecycle {d r} catalogued moved := by
    have orderly := catalogued.orderly.move (.lifecycle moved)
    cases moved with
    | turn busy => exact ⟨orderly, catalogued.indexed, catalogued.found, catalogued.addressed⟩
    | @phase id old e target reason held led =>
      have ⟨indexed, found⟩ := Registry.upkeep_exact.phase ⟨catalogued.indexed, catalogued.found⟩
        held led
      refine ⟨orderly, indexed, found, fun other f held' => ?_⟩
      rw [Catalog.get?_revise] at held'
      split at held'
      · cases held'
        obtain ⟨m, known, address⟩ := catalogued.addressed id old held
        exact ⟨m, known, (Entry.enter_same led).2.2.1.trans address⟩
      · exact catalogued.addressed other f held'

/-- What a run of camera flows is made of: entries come from flows, and are changed by flows or
removed. -/
def OfCameras : Event Memory device → Prop
  | .change (.mutate (.remove _)) => True
  | .change (.mutate _) => False
  | .integrate handler i => handler = domain ∧ i = integration
  | _ => True

theorem OfCameras.change {c : Registry.Change} (cameras : OfCameras (.change c)) :
    (∀ e, c ≠ .mutate (.add e)) ∧ ∀ id u now, c ≠ .mutate (.update id u now) := by
  constructor
  · rintro e rfl
    exact cameras
  · rintro id u now rfl
    exact cameras

theorem admits_of_noAdd {c : Registry.Change} (noAdd : ∀ e, c ≠ .mutate (.add e)) : d.Admits c := by
  unfold Admits
  split
  · exact absurd rfl (noAdd _)
  · trivial

/-- In a handshake on the way a device has reported the address. -/
def Reported (events : List (Event Memory device)) (m : String) : Prop :=
  ∃ place say n h, Event.reply place say ∈ events ∧ say (.device (.handshake n)) = some h ∧
    h.report.address = some m

theorem honours_cameras (handled : Std.ExtTreeSet String) (now : Instant)
    {events : List (Event Memory device)} (cameras : ∀ event ∈ events, OfCameras event) :
    ((Record.opened handled now).after steps events).Honours
      (attended (Catalogued (Reported events)) (Reported events)) := by
  let A (_ : Desk Memory) (event : Event Memory device) : Prop := OfCameras event ∧ event ∈ events
  have serves : Serves steps (attended (Catalogued (Reported events)) (Reported events)) A := by
    refine serves_attended (welcomes_catalogued _) (fun {d c} kept allowed => ?_)
      (fun {d handler i} allowed => ?_) fun {d place say} allowed q r m said reports => ?_
    · obtain ⟨noAdd, noUpdate⟩ := allowed.1.change
      exact kept.2.change (admits_of_noAdd noAdd)
        (fun id u now same => absurd same (noUpdate id u now)) (fun e same => absurd same (noAdd e))
        rfl rfl
    · exact allowed.1
    · cases q with
      | device q =>
        cases q with
        | handshake n => exact ⟨place, say, n, r, allowed.2, said, reports⟩
        | _ => exact reports.elim
      | _ => exact reports.elim
  have start : Catalogued (Reported events) (Record.opened (F := device) handled now).state :=
    ⟨⟨Catalog.filed_empty, fun n _ => by simp [Record.opened, Registry.onDisk, Catalog.get?]⟩,
      Catalog.indexed_empty, Catalog.found_empty,
      fun id e held => by simp [Record.opened, Registry.onDisk, Catalog.get?] at held⟩
  exact serves.after (Chronicle.honours_start ⟨furnished_opened handled now, start⟩)
    (Record.throughout (fun event member _ => ⟨cameras event member, member⟩) _)

/-- On every run of camera flows, at every moment all entries are of devices that have reported
their addresses and no two are of spellings of one address. A call that has identified a device of
which there is an entry acknowledges it, and only a device of which there is none is onboarded. -/
theorem one_entry_per_device (handled : Std.ExtTreeSet String) (now : Instant)
    (events : List (Event Memory device)) (cameras : ∀ event ∈ events, OfCameras event) :
    let c := (Record.opened handled now).after steps events
    (∀ d ∈ c.seen,
      (∀ (id : String) (e : Entry), d.registry.get? id = some e →
        ∃ m, Reported events m ∧ HasAddress e m) ∧
      ∀ (id id' : String) (e e' : Entry) (m m' : String), d.registry.get? id = some e →
        d.registry.get? id' = some e' → HasAddress e m → HasAddress e' m' →
        Device.SameAddress m m' → id = id') ∧
    ∀ call ∈ c.ended, ∀ answer, call.ending = .ok (.flow answer) →
      (∀ h i d m, Recognised call.heard h i d → h.report.address = some m →
        ∀ (id : String) (e : Entry) (m' : String), d.registry.get? id = some e → HasAddress e m' →
          Device.SameAddress m m' → Acknowledges answer) ∧
      (Creates answer → ∃ h i d m, Recognised call.heard h i d ∧ h.report.address = some m ∧
        ∀ (id : String) (e : Entry) (m' : String), d.registry.get? id = some e → HasAddress e m' →
          ¬ Device.SameAddress m m') := by
  intro c
  have honours := honours_cameras handled now cameras
  refine ⟨fun d seen => ?_, fun call ended answer ends => ?_⟩
  · have catalogued := (honours.moments d seen).2
    refine ⟨catalogued.addressed, fun id id' e e' m m' held held' address address' same => ?_⟩
    rw [HasAddress, ← same.canonical] at address'
    exact catalogued.found.unique id id' e e' _ held held' address address'
  · have due := honours.ended call ended answer ends
    have known (h : Handshake) (i : Identified) (d : Desk Memory) (m : String)
        (recognised : Recognised call.heard h i d) (reports : h.report.address = some m)
        (id : String) (e : Entry) (m' : String) (held : d.registry.get? id = some e)
        (address : HasAddress e m') (same : Device.SameAddress m m') :
        d.registry.holder? ⟨domain, i.uniqueId⟩ = some e := by
      obtain ⟨m, reported, uniqueId⟩ := Handshake.outcome_ok recognised.outcome
      cases reports.symm.trans reported
      have catalogued := (due.kept h i d recognised).2
      obtain rfl := catalogued.indexed.filed id e held
      rw [uniqueId, same.canonical]
      exact catalogued.found.holder? held address
    refine ⟨fun h i d m recognised reports id e m' held address same => ?_, fun creates => ?_⟩
    · exact due.known h i d e recognised (known h i d m recognised reports id e m' held address same)
    · obtain ⟨h, i, d, recognised, new⟩ := due.new creates
      obtain ⟨m, reported, _⟩ := Handshake.outcome_ok recognised.outcome
      refine ⟨h, i, d, m, recognised, reported, fun id e m' held address same => ?_⟩
      cases new.symm.trans (known h i d m recognised reported id e m' held address same)

/-- The replies of a device that lets anyone in, and reports this of itself. -/
def greets (r : Report) : ∀ q : Calling device, Option q.Reply
  | .device (.client _) => some ⟨0, r⟩
  | .device (.handshake _) => some ⟨r, .succeeded⟩
  | q => welcome q

/-- The camera again, when it writes its address in another way. -/
def rewritten : Report := { openCamera with address := some "aabb.ccdd.eeff" }

def twice : List (Event Memory device) :=
  shown ++ [.call (.submit (Issue.id 0) credentials), .reply 0 (greets openCamera),
    .reply 0 (greets openCamera), .reply 0 (greets openCamera), .call (.start domain .user none),
    .call (.submit (Issue.id 2) credentials), .reply 0 (greets rewritten),
    .reply 0 (greets rewritten), .reply 0 (greets rewritten)]

/-- What a call to a flow has been answered. -/
def answered? : Except Crash Answer → Option (Except FlowError FlowResult)
  | .ok (.flow answer) => some answer
  | _ => none

theorem answered?_eq_some {ending : Except Crash Answer} {answer : Except FlowError FlowResult}
    (answered : answered? ending = some answer) : ending = .ok (.flow answer) := by
  unfold answered? at answered
  split at answered
  · cases answered
    rfl
  · cases answered

/-- A camera is onboarded and then found again: the call that recognises it by the other spelling
acknowledges the entry that is there. -/
theorem twice_acknowledged : ∃ call ∈ ((Record.opened ∅ .epoch).after steps twice).ended,
    told call.heard = some ⟨rewritten, .succeeded⟩ ∧
      ∃ answer, call.ending = .ok (.flow answer) ∧ Acknowledges answer := by
  have cameras : ∀ event ∈ twice, OfCameras event := by simp [twice, shown, OfCameras]
  have found : ((Record.opened ∅ .epoch).after steps twice).ended.any (fun call =>
      decide (told call.heard = some ⟨rewritten, .succeeded⟩) &&
      decide (((leftAt call.heard).bind (·.registry.get? (Issue.id 1))).map Entry.identity? =
        some (some ⟨domain, Device.canonicalAddress "AA-BB-CC-DD-EE-FF"⟩)) &&
      (answered? call.ending).isSome) = true := by decide +kernel
  obtain ⟨call, member, found⟩ := List.any_eq_true.mp found
  simp only [Bool.and_eq_true, decide_eq_true_eq, Option.map_eq_some_iff,
    Option.bind_eq_some_iff] at found
  obtain ⟨⟨heard, e, ⟨d, left, held⟩, address⟩, answered⟩ := found
  have same : Device.SameAddress "aabb.ccdd.eeff" "AA-BB-CC-DD-EE-FF" :=
    ⟨"aabbccddeeff".toList, "AABBCCDDEEFF".toList,
      ⟨rfl, List.all_eq_true.mp (by decide +kernel), .dots, by decide +kernel⟩,
      ⟨rfl, List.all_eq_true.mp (by decide +kernel), .dashes, by decide +kernel⟩,
      by decide +kernel⟩
  obtain ⟨answer, answered⟩ := Option.isSome_iff_exists.mp answered
  have ends := answered?_eq_some answered
  exact ⟨call, member, heard, answer, ends,
    ((one_entry_per_device ∅ .epoch twice cameras).2 call member answer ends).1 _ _ d _
      ⟨heard, rfl, left⟩ rfl (Issue.id 1) e _ held address same⟩

end Camera

end Onboarding
