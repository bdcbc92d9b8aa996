import Onboarding.Proofs.Camera.Forms
import Onboarding.Proofs.Camera.Visits
import Onboarding.Proofs.Registry.Renewal

/-! The options flow of a camera. Its form checks a protocol that is submitted, but not the one that
it fills in, which the entry had when the flow began. So an entry ends with one of the protocols on
offer, unless it began with another one and that was left as it was. -/
namespace Onboarding.Camera

open Desk Job

/-- The options of an entry with a protocol and nothing else. -/
def only (protocol : String) : Data := (∅ : Data).insert Key.protocol (.text protocol)

theorem plain_only (protocol : String) : (only protocol).Plain :=
  Data.plain_empty.insert Key.protocol trivial

/-- The protocol that an input of the form comes to, where another one is filled in. -/
inductive Chosen (filledIn : String) (input : Data) : String → Prop where
  | given {protocol : String} (here : input[Key.protocol]? = some (.text protocol))
    (offered : protocol ∈ protocols) : Chosen filledIn input protocol
  | left (absent : input[Key.protocol]? = none) : Chosen filledIn input filledIn

section Form

variable {filledIn : String} {input : Data}

/-- What an input comes to is on offer, unless it is what was filled in and that is not. -/
theorem Chosen.offered_iff {protocol : String} (chosen : Chosen filledIn input protocol) :
    protocol ∈ protocols ↔ filledIn ∈ protocols ∨ input[Key.protocol]? ≠ none := by
  cases chosen with
  | given here offered =>
    rw [here]
    exact ⟨fun _ => .inr (by simp), fun _ => offered⟩
  | left absent => exact ⟨.inl, fun fit => fit.resolve_right fun given => given absent⟩

/-- The one field of the form. -/
def protocolField (filledIn : String) : Field :=
  ⟨Key.protocol, .select protocols, true, some (.text filledIn)⟩

theorem check_protocol (filledIn : String) (v : Value) :
    (∃ protocol ∈ protocols, v = .text protocol) ∧ (protocolField filledIn).check v = .ok () ∨
      (∀ protocol ∈ protocols, v ≠ .text protocol) ∧
        ∃ r, (protocolField filledIn).check v = .error r := by
  unfold Field.check protocolField
  cases v with
  | text protocol =>
    by_cases offered : protocol ∈ protocols
    · simp [FieldKind.fits, FieldKind.offers, Value.text?, offered]
    · have other : ∀ p ∈ protocols, protocol ≠ p := fun p member same => offered (same ▸ member)
      simpa [FieldKind.fits, FieldKind.offers, Value.text?, offered] using other
  | _ => simp [FieldKind.fits, Value.text?]

theorem validate_left (absent : input[Key.protocol]? = none) :
    (protocolSchema filledIn).validate input = .ok (only filledIn) := by
  simp only [Schema.validate, protocolSchema, Schema.required, Schema.push, Schema.empty,
    List.nil_append, Schema.takeAll, Field.take, absent]
  rfl

theorem validate_given {v : Value} (here : input[Key.protocol]? = some v) :
    (protocolSchema filledIn).validate input =
      ((protocolField filledIn).check v).map fun _ => (∅ : Data).insert Key.protocol v := by
  simp only [Schema.validate, protocolSchema, Schema.required, Schema.push, Schema.empty,
    List.nil_append, Schema.takeAll, Field.take, here, protocolField]
  cases Field.check _ v <;> rfl

/-- The form accepts exactly the inputs that come to a protocol. -/
theorem chosen_or_rejected (filledIn : String) (input : Data) :
    (∃ protocol, Chosen filledIn input protocol ∧
      (protocolSchema filledIn).validate input = .ok (only protocol)) ∨
    (∀ protocol, ¬ Chosen filledIn input protocol) ∧
      ∃ r, (protocolSchema filledIn).validate input = .error r := by
  cases here : input[Key.protocol]? with
  | none => exact .inl ⟨filledIn, .left here, validate_left here⟩
  | some v =>
    rw [validate_given here]
    rcases check_protocol filledIn v with ⟨⟨protocol, offered, rfl⟩, passes⟩ | ⟨other, r, fails⟩
    · refine .inl ⟨protocol, .given here offered, ?_⟩
      rw [passes]
      rfl
    · refine .inr ⟨fun protocol chosen => ?_, r, ?_⟩
      · cases chosen with
        | given given offered =>
          cases here.symm.trans given
          exact other protocol offered rfl
        | left absent => cases here.symm.trans absent
      · rw [fails]
        rfl

end Form

/-- The update that gives an entry a protocol and nothing else. -/
def switch (protocol : String) : Entry.Update := { options := some (only protocol) }

/-- How a submit to the options flow of an entry is answered, with the registry then, by the desk at
which it was made and the one at which it had its turn. -/
inductive Settled (id entryId filledIn : String) (input : Data) (d turn : Desk Memory)
    (r : Registry) : Except FlowError FlowResult → Prop where
  /-- The entry has the protocol, and no other options. -/
  | stored {protocol : String} {changed : Bool} {answer : FlowResult} {version : UInt32} {e : Entry}
    (chosen : Chosen filledIn input protocol)
    (updates : turn.registry.update entryId (switch protocol) turn.now = (r, .ok changed))
    (body : answer.body = .created "" (only protocol) ∅ version none)
    (held : r.get? entryId = some e) (options : e.options = only protocol) :
    Settled id entryId filledIn input d turn r (.ok answer)
  /-- The entry is gone, or the file could not be written. -/
  | failed {protocol : String} {e : RegistryError} (chosen : Chosen filledIn input protocol)
    (fails : turn.registry.update entryId (switch protocol) turn.now = (r, .error e)) :
    Settled id entryId filledIn input d turn r (.error (.registry e))
  | rejected {reason : Rejection} (other : ∀ protocol, ¬ Chosen filledIn input protocol)
    (same : r = turn.registry) :
    Settled id entryId filledIn input d turn r (.error (.rejected reason))
  | gone (ended : id ∉ d.listed ∨ ∃ f, turn.flows[id]? = some f ∧ f.finished = true)
    (same : r = turn.registry) :
    Settled id entryId filledIn input d turn r (.error (.unknownFlow id))

section Calls

variable {id entryId filledIn : String} {input : Data}
  {heard : List (Heard (Desk Memory) (.desk device))} {d t u : Desk Memory} {f : Flow Memory}

/-- A submit finds the flows as they have gone on, and changes the registry only to store what its
input comes to. -/
def choosing (entryId filledIn : String) (input : Data) : Terms (Desk Memory) (.desk device) where
  finds _ _ s t := t.InPlace ∧ Advanced conduct s t
  writes _ s t := t.registry = s.registry ∨ ∃ protocol, Chosen filledIn input protocol ∧
    t.registry = (s.registry.update entryId (switch protocol) s.now).1

def settled (id entryId filledIn : String) (input : Data) (d : Desk Memory) :
    Post (Desk Memory) (.desk device) (Except FlowError FlowResult) := fun heard ended t =>
  ∃ answer, ended = .ok answer ∧
    Settled id entryId filledIn input d (turnAt d heard) t.registry answer

theorem closes_settled : Action.Closes (choosing entryId filledIn input)
    (settled id entryId filledIn input d) id where
  frees ended := ⟨.inl rfl, ended⟩
  delists ended := ⟨.inl rfl, ended⟩

/-- The protocol is stored, or the registry has failed. -/
theorem settled_store (turn : turnAt d heard = t) (filed : t.registry.Filed) {c : Context}
    (entry : c.entryId = some entryId) (registry : u.registry = t.registry) (now : u.now = t.now)
    {protocol : String} (chosen : Chosen filledIn input protocol) :
    (Action.storeOptions c "" (only protocol) ∅ : Action Memory device _).run.Ensures
      (choosing entryId filledIn input) (fun heard ended t =>
        settled id entryId filledIn input d heard (ended.map (·.map (Action.result c))) t)
      heard u := by
  refine ensures_iff_obeys.mpr (Action.obeys_storeOptions_entry entry rfl ?_ ?_ ?_)
  · exact .inr ⟨protocol, chosen, rfl⟩
  · intro changed updated
    change (u.registry.update entryId (switch protocol) u.now).2 = .ok changed at updated
    rw [registry, now] at updated
    obtain ⟨e, held, options⟩ := Registry.options_update filed (plain_only protocol) rfl updated
    refine ⟨_, rfl, ?_⟩
    change Settled id entryId filledIn input d (turnAt d heard)
      (u.registry.update entryId (switch protocol) u.now).1 _
    rw [registry, now, turn]
    exact .stored chosen (Prod.ext rfl updated) rfl held options
  · intro e failed
    change (u.registry.update entryId (switch protocol) u.now).2 = .error e at failed
    refine ⟨_, rfl, ?_⟩
    change Settled id entryId filledIn input d (turnAt d heard)
      (u.registry.update entryId (switch protocol) u.now).1 _
    rw [registry, now] at failed ⊢
    rw [turn]
    exact .failed chosen (Prod.ext rfl failed)

theorem settled_takeStep (turn : turnAt d heard = t) (filed : t.registry.Filed)
    (here : u.flows[id]? = some f) (registry : u.registry = t.registry) (now : u.now = t.now)
    (kind : f.kind = .options) (entry : f.context.entryId = some entryId)
    (memory : f.memory = .inr filledIn) {protocol : String}
    (chosen : Chosen filledIn input protocol) :
    (Action.takeStep steps id StepName.init (some (only protocol))).run.Ensures
      (choosing entryId filledIn input) (settled id entryId filledIn input d) heard u := by
  have done : steps StepName.init (some (only protocol)) f.memory =
      .done (.ok (.create "" (only protocol) ∅), f.memory) := by
    rw [memory]
    rfl
  have context : (u.contextOf id).entryId = some entryId := by
    rw [contextOf, here]
    exact entry
  refine Action.ensures_takeStep_done here done ?_
  refine Action.ensures_settle_create (.inl rfl) (.inl rfl) ?_
  rw [kind]
  refine settled_store turn filed context ?_ ?_ chosen
  · exact registry
  · exact now

/-- In its turn a submit is settled by the form that it finds. -/
theorem settled_answering (turn : turnAt d heard = t) (filed : t.registry.Filed)
    (presents : Presents t id f) (kind : f.kind = .options)
    (entry : f.context.entryId = some entryId) (memory : f.memory = .inr filledIn) :
    (Action.answering steps id input).run.Ensures (choosing entryId filledIn input)
      (settled id entryId filledIn input d) heard (t.modifyFlow id ({ · with busy := true })) := by
  obtain ⟨here, shows⟩ := presents
  unfold Shows at shows
  rw [memory] at shows
  obtain ⟨step, schema⟩ := shows
  have taken : (t.modifyFlow id ({ · with busy := true })).flows[id]? =
      some { f with busy := true } := by
    rw [flow_modifyFlow_self, here]
    rfl
  refine ensures_iff_obeys.mpr (Action.obeys_answering_at taken ?_ ?_ ?_)
  · intro finished
    exact ⟨_, rfl, .gone (.inr ⟨f, turn ▸ here, finished⟩) (turn ▸ rfl)⟩
  · intro reason fails
    change f.schema.validate input = _ at fails
    rcases chosen_or_rejected filledIn input with ⟨protocol, _, passes⟩ | ⟨other, _⟩
    · rw [schema, passes] at fails
      cases fails
    · exact ⟨_, rfl, .rejected other (turn ▸ rfl)⟩
  · rintro clean ⟨_, _, valid⟩
    change f.schema.validate input = _ at valid
    rcases chosen_or_rejected filledIn input with ⟨protocol, chosen, passes⟩ | ⟨_, _, fails⟩
    · rw [schema, passes] at valid
      cases valid
      change (Action.takeStep steps id f.step _).run.Obeys _ _ _ _
      rw [step]
      exact ensures_iff_obeys.mp
        (settled_takeStep turn filed taken rfl rfl kind entry memory chosen)
    · rw [schema, fails] at valid
      cases valid

theorem settled_submit (kept : d.InPlace) (presents : Presents d id f) (kind : f.kind = .options)
    (entry : f.context.entryId = some entryId) (memory : f.memory = .inr filledIn) :
    (Action.submit steps id input).run.Ensures (choosing entryId filledIn input)
      (settled id entryId filledIn input d) [] d := by
  by_cases listed : id ∈ d.listed
  · refine Action.ensures_submit closes_settled listed fun heard t reached => ⟨.inl rfl, ?_⟩
    have found : turnAt d heard = t ∧ t.InPlace ∧ Advanced conduct d t := by
      rcases reached with ⟨_, rfl, rfl⟩ | ⟨_, found, rfl⟩
      · exact ⟨rfl, kept, .refl conduct t⟩
      · exact ⟨rfl, found⟩
    obtain ⟨turn, there, advanced⟩ := found
    obtain ⟨g, presents, same, goes⟩ := presents.advance advanced
    refine settled_answering turn there.filed presents (same.kind.trans kind) ?_
      (goes.protocol filledIn memory)
    rw [same.context]
    exact entry
  · exact Action.ensures_unlisted listed ⟨_, rfl, .gone (.inl listed) rfl⟩

end Calls

/-- What the record shows of a submit that is made at a desk to the options flow of an entry. -/
structure Negotiated (n : Nat) (id entryId filledIn : String) (input : Data) (d : Desk Memory)
    (r : Record Memory device) : Prop where
  /-- The registry changes only to store what the input comes to. -/
  changes : ∀ deed ∈ r.deeds, deed.party.number = n →
    deed.after.registry = deed.before.registry ∨ ∃ protocol, Chosen filledIn input protocol ∧
      deed.after.registry =
        (deed.before.registry.update entryId (switch protocol) deed.before.now).1
  ends : ∀ e ∈ r.ended, e.party.number = n → ∃ answer, e.ending = .ok (.flow answer) ∧
    Settled id entryId filledIn input d (turnAt d e.heard) e.state.registry answer
  /-- What is stored is on offer exactly if the one filled in is, or another one was submitted. -/
  offered : ∀ protocol, Chosen filledIn input protocol →
    (protocol ∈ protocols ↔ filledIn ∈ protocols ∨ input[Key.protocol]? ≠ none)

theorem negotiated_call {c : Record Memory device} (honours : c.Honours (conducted conduct))
    (counted : c.Counted) {id entryId filledIn : String} {f : Flow Memory}
    (presents : Presents c.state id f) (kind : f.kind = .options)
    (entry : f.context.entryId = some entryId) (memory : f.memory = .inr filledIn) (input : Data)
    (later : List (Event Memory device)) :
    Negotiated c.begun id entryId filledIn input c.state
      ((c.happen steps (.call (.submit id input))).after steps later) := by
  have answers : (Call.job steps (.submit id input)).Ensures (choosing entryId filledIn input)
      (fun heard ended t => ∃ answer, ended = .ok (.flow answer) ∧
        Settled id entryId filledIn input c.state (turnAt c.state heard) t.registry answer)
      [] c.state := by
    refine ensures_bind.mpr (ensures_imp (fun heard ended t settled => ?_)
      (settled_submit honours.state presents kind entry memory))
    obtain ⟨answer, rfl, settled⟩ := settled
    exact ⟨answer, rfl, settled⟩
  have tracks := kept_conduct.tracks honours counted (ensures_iff_obeys.mp answers)
    (fun q r s t kept advanced => ⟨kept, advanced⟩) later
  exact ⟨tracks.deeds, tracks.ended, fun protocol chosen => chosen.offered_iff⟩

/-- On every run a submit to the options flow of an entry is settled by the protocol that the entry
had when the flow began: the entry has the protocol that was submitted, which is on offer, and no
other options, or that one again if none was submitted; and no other input changes anything. -/
theorem protocol_negotiated (d : Desk Memory) (before between later : List (Event Memory device))
    (entryId : String) (e : Entry) (input : Data) :
    let c₀ := (Record.restarted d).after steps before
    c₀.state.registry.get? entryId = some e →
    c₀.state.integrations[e.domain]? = some integration →
    let id := Issue.id c₀.state.issued
    let c := (c₀.happen steps (.call (.startOptions entryId))).after steps between
    Negotiated c.begun id entryId (protocolOf e) input c.state
      ((c.happen steps (.call (.submit id input))).after steps later) := by
  intro c₀ held registered id c
  obtain ⟨honours, counted, advanced⟩ :=
    kept_conduct.resumed d before (.startOptions entryId) between
  obtain ⟨f, presents, kind, entry, memory⟩ := presents_options held registered
  obtain ⟨g, presents, same, goes⟩ := presents.advance advanced
  refine negotiated_call honours counted presents (same.kind.trans kind) ?_
    (goes.protocol _ memory) input later
  rw [same.context]
  exact entry

/-- An entry that was made when there were other protocols. -/
def dated : Entry := { Entry.new "c" domain "Camera" .epoch with options := only "hls" }

/-- A new desk with that entry. -/
def outdated : Record Memory device :=
  (Record.restarted { now := .epoch }).after steps
    [.integrate domain integration, .change (.mutate (.add dated))]

/-- The options flow of the entry is started, and then submitted to. -/
def switching : Record Memory device := outdated.happen steps (.call (.startOptions "c"))

def switched (input : Data) : Record Memory device :=
  switching.happen steps (.call (.submit (Issue.id outdated.state.issued) input))

theorem held_outdated : outdated.state.registry.get? "c" = some dated := rfl

theorem registered_outdated : outdated.state.integrations[dated.domain]? = some integration := rfl

theorem dated_switched :
    outdated.state.registry.get? "c" = some dated ∧
    outdated.state.integrations[dated.domain]? = some integration ∧
    Negotiated switching.begun (Issue.id outdated.state.issued) "c" (protocolOf dated)
      (only "rtmp") switching.state (switched (only "rtmp")) ∧
    ((switched (only "rtmp")).state.registry.get? "c").map Entry.options = some (only "rtmp") :=
  ⟨held_outdated, registered_outdated,
    protocol_negotiated { now := .epoch }
      [.integrate domain integration, .change (.mutate (.add dated))] [] [] "c" dated (only "rtmp")
      held_outdated registered_outdated, rfl⟩

/-- An empty input is answered with success, and the entry keeps a protocol that is not on offer. -/
theorem dated_kept :
    ((switched ∅).ended.head?.map fun e => e.ending) =
      some (.ok (.flow (.ok ⟨Issue.id 0, "c", .created "" (only "hls") ∅ 1 none⟩))) ∧
    ((switched ∅).state.registry.get? "c").map Entry.options = some (only "hls") ∧
    "hls" ∉ protocols :=
  ⟨rfl, rfl, by decide⟩

end Onboarding.Camera
