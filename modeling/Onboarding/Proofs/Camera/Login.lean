import Onboarding.Camera.Onboard
import Onboarding.Proofs.Registry.Renewal
import Onboarding.Proofs.Form.Validation

/-! What devices are logged in to with. An input that the user form accepts is a login and nothing
else: as data it is what the client is made for, and with what the device has reported it is what
the entry keeps. Read back, either is the login that it was made from. -/
namespace Onboarding

theorem Data.Plain.put {d : Data} (plain : d.Plain) (name : String) {v : Option Value}
    (last : ∀ w ∈ v, w.Plain) : (d.put name v).Plain := by
  cases v with
  | none => exact plain
  | some w => exact plain.insert name (last w rfl)

/-- What a field takes fits it, or is what is filled in. -/
theorem Field.take_ok {f : Field} {input : Data} {v : Option Value}
    (taken : f.take input = .ok v) :
    (∃ w, v = some w ∧ f.kind.fits w = true) ∨
      v = f.default ∧ (f.required = true → v ≠ none) := by
  rcases f.take_eq input with ⟨r, _, refused⟩ | ⟨faultless, takes⟩
  · cases refused.symm.trans taken
  · cases takes.symm.trans taken
    cases here : input[f.name]? with
    | some w => exact .inl ⟨w, rfl, (FieldKind.fits_of_admits (admits_given faultless here)).1⟩
    | none =>
      exact .inr ⟨rfl, fun required blank => faultless _ (.missing here required blank)⟩

theorem Schema.takeAll_cons {f : Field} {fs : List Field} {input taken clean : Data}
    (takes : takeAll input (f :: fs) taken = .ok clean) :
    ∃ v, f.take input = .ok v ∧ takeAll input fs (taken.put f.name v) = .ok clean := by
  rw [takeAll_bind] at takes
  cases first : f.take input with
  | error r =>
    rw [first] at takes
    cases takes
  | ok v =>
    rw [first] at takes
    exact ⟨v, rfl, takes⟩

namespace Camera

/-- Where and as whom to log in. Port and transport may be left open. -/
structure Login where
  host : String
  username : String
  password : String
  port : Option UInt16
  useHttps : Option Bool

namespace Login

variable (l : Login)

def data : Data :=
  (Data.put ∅ Key.username (some (.text l.username))).put Key.password (some (.text l.password))
    |>.put Key.host (some (.text l.host))
    |>.put Key.port (l.port.map fun p => .ofNat p.toNat)
    |>.put Key.useHttps (l.useHttps.map .bool)

def connection (protocol : String) : Connection where
  host := l.host
  username := l.username
  password := l.password
  port := l.port
  useHttps := l.useHttps
  protocol := protocol
  timeout := defaultTimeout

/-- The login with the port and the transport of the device. -/
def reported (i : Identified) : Login :=
  { l with port := some i.port, useHttps := some i.useHttps }

theorem portOfValue_ofNat (p : UInt16) : Connection.portOfValue? (.ofNat p.toNat) = some p := by
  have bound : p.toNat < UInt16.size := p.toNat_lt
  simp [Connection.portOfValue?, Value.natural?, Value.ofNat, bound]

/-- The data of a login describes the connection to make with it. -/
theorem ofEntry_data (options : Data) : Connection.ofEntry l.data options =
    l.connection ((options.text? Key.protocol).getD defaultProtocol) := by
  obtain ⟨host, username, password, port, useHttps⟩ := l
  simp only [Connection.ofEntry, connection, data, Data.text?, Data.getElem?_put]
  cases port <;> cases useHttps <;>
    simp [Key.host, Key.username, Key.password, Key.port, Key.useHttps, Value.text?, Value.bool?,
      portOfValue_ofNat]

theorem completed_data (i : Identified) : completed l.data i = (l.reported i).data := by
  apply Std.ExtTreeMap.ext_getElem?
  intro name
  simp only [completed, reported, data, Data.getElem?_put, Std.ExtTreeMap.getElem?_insert,
    Std.LawfulEqCmp.compare_eq_iff_eq]
  split
  · rfl
  split
  · rfl
  · rfl

/-- The data of an entry that was made from a login by what its device has reported, and the
connection that it describes. -/
structure Stored (i : Identified) (data : Data) : Prop where
  fields : data.toList =
    [(Key.host, .text l.host), (Key.password, .text l.password),
      (Key.port, .ofNat i.port.toNat), (Key.useHttps, .bool i.useHttps),
      (Key.username, .text l.username)]
  back : ∀ options : Data, Connection.ofEntry data options =
    (l.reported i).connection ((options.text? Key.protocol).getD defaultProtocol)

theorem stored (i : Identified) : l.Stored i (completed l.data i) := by
  rw [completed_data]
  exact ⟨rfl, (l.reported i).ofEntry_data⟩

theorem plain_data : l.data.Plain := by
  have text {d : Data} (plain : d.Plain) (name s : String) :
      (d.put name (some (.text s))).Plain := plain.insert name trivial
  unfold data
  refine Data.Plain.put (Data.Plain.put (text (text (text ?_ _ _) _ _) _ _) _ ?_) _ ?_
  · exact Data.plain_empty
  · intro v member
    obtain ⟨p, _, rfl⟩ := Option.map_eq_some_iff.mp member
    trivial
  · intro v member
    obtain ⟨b, _, rfl⟩ := Option.map_eq_some_iff.mp member
    trivial

theorem plain_completed (i : Identified) : (completed l.data i).Plain := by
  rw [completed_data]
  exact (l.reported i).plain_data

end Login

/-! The form. -/

section Form

variable {f : Field} {input : Data} {v : Option Value}

theorem take_text (kind : f.kind = .string) (required : f.required = true)
    (default : ∀ v, f.default = some v → ∃ s, v = .text s) (taken : f.take input = .ok v) :
    ∃ s, v = some (.text s) := by
  rcases Field.take_ok taken with ⟨w, rfl, fits⟩ | ⟨rfl, given⟩
  · rw [kind] at fits
    cases w with
    | text s => exact ⟨s, rfl⟩
    | _ => cases fits
  · obtain ⟨w, filledIn⟩ := Option.ne_none_iff_exists'.mp (given required)
    obtain ⟨s, rfl⟩ := default w filledIn
    exact ⟨s, filledIn⟩

theorem take_port (kind : f.kind = .port) (default : f.default = none)
    (taken : f.take input = .ok v) :
    ∃ p : Option UInt16, p ≠ some 0 ∧ v = p.map fun p => .ofNat p.toNat := by
  rcases Field.take_ok taken with ⟨w, rfl, fits⟩ | ⟨rfl, _⟩
  · rw [kind, FieldKind.fits, Option.any_eq_true] at fits
    obtain ⟨n, natural, bounds⟩ := fits
    simp only [Bool.and_eq_true, decide_eq_true_eq] at bounds
    have whole : (UInt16.ofNat n).toNat = n :=
      UInt16.toNat_ofNat_of_lt' (Nat.lt_succ_of_le bounds.2)
    refine ⟨some (UInt16.ofNat n), fun zero => ?_, ?_⟩
    · rw [Option.some.inj zero] at whole
      exact absurd bounds.1 (whole ▸ Nat.lt_irrefl 0)
    · rw [Value.natural?_eq_some.mp natural, Option.map_some, whole]
  · exact ⟨none, by simp, default⟩

theorem take_boolean (kind : f.kind = .boolean) (default : f.default = none)
    (taken : f.take input = .ok v) : ∃ b : Option Bool, v = b.map .bool := by
  rcases Field.take_ok taken with ⟨w, rfl, fits⟩ | ⟨rfl, _⟩
  · rw [kind] at fits
    cases w with
    | bool b => exact ⟨some b, rfl⟩
    | _ => cases fits
  · exact ⟨none, default⟩

/-- The fields that are only there after a failure. -/
def overrideFields : List Field :=
  [⟨Key.port, .port, false, none⟩, ⟨Key.useHttps, .boolean, false, none⟩]

/-- The fields of the user form. -/
def userFields (draft : Draft) (overrides : Bool) : List Field :=
  [⟨Key.username, .string, true, some (.text draft.username)⟩,
    ⟨Key.password, .string, true, draft.password.map .text⟩,
    ⟨Key.host, .string, true, draft.host.map .text⟩] ++ if overrides then overrideFields else []

theorem fields_schema (draft : Draft) (overrides : Bool) :
    (draft.schema overrides).fields = userFields draft overrides := by
  cases overrides <;> rfl

/-- What the form accepts is a login. -/
theorem login_of_valid {draft : Draft} {overrides : Bool} {clean : Data}
    (valid : (draft.schema overrides).validate input = .ok clean) :
    ∃ l : Login, clean = l.data ∧ l.port ≠ some 0 := by
  have text (o : Option String) (v : Value) (filledIn : o.map .text = some v) :
      ∃ s, v = .text s := by
    obtain ⟨s, _, rfl⟩ := Option.map_eq_some_iff.mp filledIn
    exact ⟨s, rfl⟩
  rw [Schema.validate, fields_schema] at valid
  obtain ⟨_, takes, valid⟩ := Schema.takeAll_cons valid
  obtain ⟨username, rfl⟩ := take_text rfl rfl (text (some draft.username)) takes
  obtain ⟨_, takes, valid⟩ := Schema.takeAll_cons valid
  obtain ⟨password, rfl⟩ := take_text rfl rfl (text draft.password) takes
  obtain ⟨_, takes, valid⟩ := Schema.takeAll_cons valid
  obtain ⟨host, rfl⟩ := take_text rfl rfl (text draft.host) takes
  cases overrides with
  | false =>
    cases valid
    exact ⟨⟨host, username, password, none, none⟩, rfl, by simp⟩
  | true =>
    obtain ⟨_, takes, valid⟩ := Schema.takeAll_cons valid
    obtain ⟨port, other, rfl⟩ := take_port rfl rfl takes
    obtain ⟨_, takes, valid⟩ := Schema.takeAll_cons valid
    obtain ⟨useHttps, rfl⟩ := take_boolean rfl rfl takes
    cases valid
    exact ⟨⟨host, username, password, port, useHttps⟩, rfl, other⟩

end Form

end Camera

end Onboarding
