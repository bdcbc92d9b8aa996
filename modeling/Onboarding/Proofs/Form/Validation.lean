import Onboarding.Proofs.Form.Extension

/-! What a schema makes of an input. The first field with a fault is the one that is reported; where
there is none, every name of the schema comes to what was submitted under it, or else to the last
default of that name. What is accepted is accepted again as it is, if the names are apart and the
defaults are values of their fields. -/
namespace Onboarding

/-- Puts a value under a name, if there is one. -/
def Data.put (d : Data) (name : String) : Option Value → Data
  | none => d
  | some v => Std.ExtTreeMap.insert d name v

theorem Data.getElem?_put (d : Data) (name : String) (v : Option Value) (other : String) :
    (d.put name v)[other]? = if name = other then v.or d[other]? else d[other]? := by
  cases v with
  | none => simp [put]
  | some v => simp [put, Std.ExtTreeMap.getElem?_insert]

theorem Value.natural?_eq_some {v : Value} {n : Nat} : v.natural? = some n ↔ v = .ofNat n := by
  constructor
  · intro natural
    unfold natural? at natural
    split at natural
    · rename_i m
      split at natural
      · rename_i positive
        cases natural
        rw [ofNat, Int.toNat_of_nonneg positive]
      · cases natural
    · cases natural
  · rintro rfl
    simp [natural?, ofNat]

theorem Value.text_of_isSome {v : Value} (text : v.text?.isSome = true) : ∃ s, v = .text s := by
  cases v with
  | text s => exact ⟨s, rfl⟩
  | _ => cases text

theorem Value.any_natural? (v : Value) (p : Nat → Bool) :
    v.natural?.any p = true ↔ ∃ n, v = .ofNat n ∧ p n = true := by
  simp only [Option.any_eq_true, natural?_eq_some]

namespace FieldKind

/-- The values of a kind. -/
inductive Admits : FieldKind → Value → Prop where
  | string (s : String) : Admits .string (.text s)
  | positiveInt {n : Nat} (positive : 1 ≤ n) : Admits .positiveInt (.ofNat n)
  | port {n : Nat} (positive : 1 ≤ n) (bounded : n ≤ 65535) : Admits .port (.ofNat n)
  | boolean (b : Bool) : Admits .boolean (.bool b)
  | select {options : List String} {s : String} (offered : s ∈ options) :
    Admits (.select options) (.text s)

theorem fits_of_admits {k : FieldKind} {v : Value} (admits : k.Admits v) :
    k.fits v = true ∧ k.offers v = true := by
  cases admits with
  | string s => exact ⟨rfl, rfl⟩
  | positiveInt positive =>
    rw [fits, Value.any_natural?]
    exact ⟨⟨_, rfl, decide_eq_true positive⟩, rfl⟩
  | port positive bounded =>
    rw [fits, Value.any_natural?]
    refine ⟨⟨_, rfl, ?_⟩, rfl⟩
    exact Bool.and_eq_true_iff.mpr ⟨decide_eq_true positive, decide_eq_true bounded⟩
  | boolean b => exact ⟨rfl, rfl⟩
  | select offered => exact ⟨rfl, by simpa [offers, Value.text?] using offered⟩

theorem admits_of_fits {k : FieldKind} {v : Value} (fits : k.fits v = true)
    (offers : k.offers v = true) : k.Admits v := by
  cases k with
  | string =>
    obtain ⟨s, rfl⟩ := Value.text_of_isSome fits
    exact .string s
  | positiveInt =>
    obtain ⟨n, rfl, positive⟩ := (v.any_natural? _).mp fits
    exact .positiveInt (of_decide_eq_true positive)
  | port =>
    obtain ⟨n, rfl, bounds⟩ := (v.any_natural? _).mp fits
    simp only [Bool.and_eq_true, decide_eq_true_eq] at bounds
    exact .port bounds.1 bounds.2
  | boolean =>
    cases v with
    | bool b => exact .boolean b
    | _ => cases fits
  | select options =>
    obtain ⟨s, rfl⟩ := Value.text_of_isSome fits
    exact .select (by simpa [FieldKind.offers, Value.text?] using offers)

end FieldKind

namespace Field

variable (f : Field) (input : Data)

/-- What is said of a value that the field does not admit: that it is not on offer, if it is a text
to choose by, and else that it is of another kind. -/
def complaint (v : Value) : Rejection :=
  match f.kind, v with
  | .select options, .text _ => .notInOptions f.name options
  | kind, _ => .wrongKind f.name kind

/-- What is wrong with what an input gives the field. -/
inductive Fault : Rejection → Prop where
  | unfit {v : Value} (given : input[f.name]? = some v) (unfit : ¬ f.kind.Admits v) :
    Fault (f.complaint v)
  | missing (absent : input[f.name]? = none) (required : f.required = true)
    (blank : f.default = none) : Fault (.missing f.name)

variable {f input} {v : Value} {r : Rejection}

theorem check_admitted (admits : f.kind.Admits v) : f.check v = .ok () := by
  obtain ⟨fits, offers⟩ := FieldKind.fits_of_admits admits
  simp [check, fits, offers]

theorem check_unfit (unfit : ¬ f.kind.Admits v) : f.check v = .error (f.complaint v) := by
  obtain ⟨name, kind, required, default⟩ := f
  cases fits : kind.fits v with
  | false =>
    have other : complaint ⟨name, kind, required, default⟩ v = .wrongKind name kind := by
      unfold complaint
      split
      · rename_i chosen
        cases chosen
        cases fits
      · rfl
    simp [check, fits, other]
  | true =>
    have refused : kind.offers v = false :=
      eq_false_of_ne_true fun offers => unfit (FieldKind.admits_of_fits fits offers)
    cases kind with
    | select options =>
      obtain ⟨s, rfl⟩ := Value.text_of_isSome fits
      simp [check, fits, refused, complaint]
    | _ => cases refused

/-- A field with a fault reports it. One without takes what was submitted, or else its default. -/
theorem take_eq (f : Field) (input : Data) :
    (∃ r, f.Fault input r ∧ f.take input = .error r) ∨
      (∀ r, ¬ f.Fault input r) ∧ f.take input = .ok (input[f.name]?.or f.default) := by
  cases here : input[f.name]? with
  | some v =>
    by_cases admits : f.kind.Admits v
    · refine .inr ⟨fun r fault => ?_, by simp [take, here, check_admitted admits, Except.map]⟩
      cases fault with
      | unfit given unfit =>
        cases here.symm.trans given
        exact unfit admits
      | missing absent => cases here.symm.trans absent
    · exact .inl ⟨_, .unfit here admits, by simp [take, here, check_unfit admits, Except.map]⟩
  | none =>
    by_cases missing : f.required = true ∧ f.default = none
    · obtain ⟨required, blank⟩ := missing
      exact .inl ⟨_, .missing here required blank, by simp [take, here, required, blank]⟩
    · refine .inr ⟨fun r fault => ?_, ?_⟩
      · cases fault with
        | unfit given => cases here.symm.trans given
        | missing _ required blank => exact missing ⟨required, blank⟩
      · cases filledIn : f.default with
        | some v => simp [take, here, filledIn]
        | none =>
          have optional : ¬ f.required = true := fun required => missing ⟨required, filledIn⟩
          simp [take, here, filledIn, optional]

theorem Fault.unique {r' : Rejection} (fault : f.Fault input r) (fault' : f.Fault input r') :
    r = r' := by
  cases fault with
  | unfit given =>
    cases fault' with
    | unfit given' =>
      cases given.symm.trans given'
      rfl
    | missing absent => cases given.symm.trans absent
  | missing absent =>
    cases fault' with
    | unfit given => cases given.symm.trans absent
    | missing => rfl

theorem take_error_iff : f.take input = .error r ↔ f.Fault input r := by
  rcases f.take_eq input with ⟨r', fault, takes⟩ | ⟨faultless, takes⟩
  · rw [takes, Except.error.injEq]
    exact ⟨fun same => same ▸ fault, fun other => fault.unique other⟩
  · rw [takes]
    exact ⟨nofun, fun fault => absurd fault (faultless r)⟩

theorem take_faultless (faultless : ∀ r, ¬ f.Fault input r) :
    f.take input = .ok (input[f.name]?.or f.default) := by
  rcases f.take_eq input with ⟨r, fault, _⟩ | ⟨_, takes⟩
  · exact absurd fault (faultless r)
  · exact takes

theorem admits_given (faultless : ∀ r, ¬ f.Fault input r) (given : input[f.name]? = some v) :
    f.kind.Admits v :=
  Classical.byContradiction fun unfit => faultless _ (.unfit given unfit)

/-- Only what is submitted under its name matters to a field. -/
theorem take_congr {other : Data} (same : other[f.name]? = input[f.name]?) :
    f.take other = f.take input := by
  rw [take, take, same]

end Field

namespace Schema

variable {fs : List Field} {input taken clean : Data} {r : Rejection}

theorem takeAll_bind (input : Data) (f : Field) (fs : List Field) (taken : Data) :
    takeAll input (f :: fs) taken =
      f.take input >>= fun v => takeAll input fs (taken.put f.name v) := by
  rw [takeAll]
  refine congrArg (Except.bind (f.take input)) (funext fun v => ?_)
  cases v <;> rfl

/-- The first field with a fault has this one. -/
def FirstFault (fs : List Field) (input : Data) (r : Rejection) : Prop :=
  ∃ before f after, fs = before ++ f :: after ∧ (∀ g ∈ before, ∀ r, ¬ g.Fault input r) ∧
    f.Fault input r

theorem firstFault_cons {f : Field} : FirstFault (f :: fs) input r ↔
    f.Fault input r ∨ (∀ r, ¬ f.Fault input r) ∧ FirstFault fs input r := by
  constructor
  · rintro ⟨before, g, after, split, faultless, fault⟩
    cases before with
    | nil =>
      cases split
      exact .inl fault
    | cons h before =>
      cases split
      obtain ⟨first, others⟩ := List.forall_mem_cons.mp faultless
      exact .inr ⟨first, before, g, after, rfl, others, fault⟩
  · rintro (fault | ⟨first, before, g, after, rfl, others, fault⟩)
    · exact ⟨[], f, fs, rfl, nofun, fault⟩
    · exact ⟨f :: before, g, after, rfl, List.forall_mem_cons.mpr ⟨first, others⟩, fault⟩

theorem exists_firstFault_iff :
    (∃ r, FirstFault fs input r) ↔ ∃ f ∈ fs, ∃ r, f.Fault input r := by
  constructor
  · rintro ⟨r, before, f, after, rfl, _, fault⟩
    exact ⟨f, by simp, r, fault⟩
  · rintro ⟨f, member, fault⟩
    induction fs with
    | nil => cases member
    | cons g fs ih =>
      by_cases first : ∃ r, g.Fault input r
      · obtain ⟨r, first⟩ := first
        exact ⟨r, firstFault_cons.mpr (.inl first)⟩
      · have faultless : ∀ r, ¬ g.Fault input r := not_exists.mp first
        rcases List.mem_cons.mp member with rfl | later
        · exact absurd fault first
        · obtain ⟨r, others⟩ := ih later
          exact ⟨r, firstFault_cons.mpr (.inr ⟨faultless, others⟩)⟩

theorem takeAll_error_iff : takeAll input fs taken = .error r ↔ FirstFault fs input r := by
  induction fs generalizing taken with
  | nil =>
    refine ⟨nofun, ?_⟩
    rintro ⟨before, f, after, split, _⟩
    simp at split
  | cons f fs ih =>
    rw [takeAll_bind, firstFault_cons]
    cases takes : f.take input with
    | error r' =>
      have fault : f.Fault input r' := Field.take_error_iff.mp takes
      change Except.error r' = Except.error r ↔ _
      rw [Except.error.injEq]
      refine ⟨fun same => .inl (same ▸ fault), ?_⟩
      rintro (other | ⟨faultless, _⟩)
      · exact Except.error.inj (takes.symm.trans (Field.take_error_iff.mpr other))
      · exact absurd fault (faultless r')
    | ok v =>
      have faultless (r : Rejection) : ¬ f.Fault input r := fun fault => by
        cases takes.symm.trans (Field.take_error_iff.mpr fault)
      refine ih.trans ⟨fun others => .inr ⟨faultless, others⟩, ?_⟩
      rintro (fault | ⟨_, others⟩)
      · exact absurd fault (faultless r)
      · exact others

/-- What fields without faults make of an input. -/
def filled (input : Data) (fs : List Field) (taken : Data) : Data :=
  fs.foldl (fun d f => d.put f.name (input[f.name]?.or f.default)) taken

theorem takeAll_faultless (faultless : ∀ f ∈ fs, ∀ r, ¬ f.Fault input r) (taken : Data) :
    takeAll input fs taken = .ok (filled input fs taken) := by
  induction fs generalizing taken with
  | nil => rfl
  | cons f fs ih =>
    obtain ⟨first, others⟩ := List.forall_mem_cons.mp faultless
    rw [takeAll_bind, Field.take_faultless first]
    exact ih others _

/-- The last default of a name. -/
def default? (fs : List Field) (name : String) : Option Value :=
  fs.findSomeRev? fun f => if f.name = name then f.default else none

theorem default?_cons (f : Field) (fs : List Field) (name : String) : default? (f :: fs) name =
    (default? fs name).or (if f.name = name then f.default else none) := by
  rw [default?, default?, List.findSomeRev?.eq_def]
  dsimp only
  split
  · rename_i later
    rw [later]
    rfl
  · rename_i later
    rw [later, Option.none_or]

theorem default?_of_absent {name : String} (absent : name ∉ fs.map Field.name) :
    default? fs name = none := by
  induction fs with
  | nil => rfl
  | cons f fs ih =>
    obtain ⟨first, others⟩ : name ≠ f.name ∧ name ∉ fs.map Field.name := by simpa using absent
    rw [default?_cons, ih others, if_neg first.symm]
    rfl

/-- A field whose name is its own is alone in giving a default for it. -/
theorem default?_of_mem (once : (fs.map Field.name).Nodup) {f : Field} (member : f ∈ fs) :
    default? fs f.name = f.default := by
  induction fs with
  | nil => cases member
  | cons g fs ih =>
    obtain ⟨apart, once⟩ := List.nodup_cons.mp once
    rw [default?_cons]
    rcases List.mem_cons.mp member with rfl | later
    · rw [default?_of_absent apart, if_pos rfl, Option.none_or]
    · have other : g.name ≠ f.name := fun same => apart (same ▸ List.mem_map_of_mem later)
      rw [ih once later, if_neg other, Option.or_none]

theorem getElem?_filled (input : Data) (fs : List Field) (taken : Data) (name : String) :
    (filled input fs taken)[name]? = if name ∈ fs.map Field.name then
      (input[name]?.or (default? fs name)).or taken[name]? else taken[name]? := by
  induction fs generalizing taken with
  | nil => rfl
  | cons f fs ih =>
    change (filled input fs (taken.put f.name (input[f.name]?.or f.default)))[name]? = _
    rw [ih, Data.getElem?_put, default?_cons]
    by_cases here : f.name = name
    · subst here
      have known : f.name ∈ (f :: fs).map Field.name := by simp
      rw [if_pos known, if_pos rfl, if_pos rfl]
      split
      · cases input[f.name]? <;> cases default? fs f.name <;> simp
      · rename_i absent
        rw [default?_of_absent absent, Option.none_or]
    · have further : name ∈ (f :: fs).map Field.name ↔ name ∈ fs.map Field.name := by
        rw [List.map_cons, List.mem_cons, or_iff_right (Ne.symm here)]
      simp only [further, if_neg here, Option.or_none]

/-! The schema as a whole. -/

variable {s : Schema}

/-- What an accepted input comes to under a name. -/
def cleaned (s : Schema) (input : Data) (name : String) : Option Value :=
  if name ∈ s.names then input[name]?.or (default? s.fields name) else none

theorem validate_error_iff : s.validate input = .error r ↔ FirstFault s.fields input r :=
  takeAll_error_iff

theorem validate_ok_iff : s.validate input = .ok clean ↔
    (∀ f ∈ s.fields, ∀ r, ¬ f.Fault input r) ∧ ∀ name : String, clean[name]? = s.cleaned input name := by
  have lookups (name : String) : (filled input s.fields ∅)[name]? = s.cleaned input name := by
    rw [getElem?_filled, Std.ExtTreeMap.getElem?_empty, Option.or_none]
    rfl
  by_cases faultless : ∀ f ∈ s.fields, ∀ r, ¬ f.Fault input r
  · have accepts : s.validate input = .ok (filled input s.fields ∅) :=
      takeAll_faultless faultless ∅
    rw [accepts, Except.ok.injEq]
    refine ⟨fun same => ⟨faultless, same ▸ lookups⟩, ?_⟩
    rintro ⟨_, looked⟩
    exact Std.ExtTreeMap.ext_getElem? fun name => (lookups name).trans (looked name).symm
  · obtain ⟨r, first⟩ := exists_firstFault_iff.mpr (by simpa using faultless)
    rw [validate_error_iff.mpr first]
    exact ⟨nofun, fun accepted => absurd accepted.1 faultless⟩

/-- Fields of the same names that take the same come to the same together. -/
theorem takeAll_map {other : Data} {g : Field → Field} (named : ∀ f, (g f).name = f.name)
    (same : ∀ f ∈ fs, (g f).take other = f.take input) (taken : Data) :
    takeAll other (fs.map g) taken = takeAll input fs taken := by
  induction fs generalizing taken with
  | nil => rfl
  | cons f fs ih =>
    obtain ⟨first, others⟩ := List.forall_mem_cons.mp same
    rw [List.map_cons, takeAll_bind, takeAll_bind, first, named]
    exact congrArg (Except.bind (f.take input)) (funext fun v => ih others _)

theorem takeAll_congr {other : Data} (same : ∀ f ∈ fs, other[f.name]? = input[f.name]?)
    (taken : Data) : takeAll other fs taken = takeAll input fs taken := by
  have takes := takeAll_map (g := id) (fun _ => rfl)
    (fun f member => Field.take_congr (same f member)) taken
  rwa [List.map_id] at takes

theorem mem_names {f : Field} (member : f ∈ s.fields) : f.name ∈ s.names :=
  List.mem_map_of_mem member

/-- Every default is a value of its field. -/
def Typed (s : Schema) : Prop := ∀ f ∈ s.fields, ∀ v, f.default = some v → f.kind.Admits v

/-- Every value that comes of an accepted input is a value of its field. -/
theorem admits_of_valid (once : s.names.Nodup) (typed : s.Typed) (valid : s.validate input = .ok clean)
    {f : Field} (member : f ∈ s.fields) {v : Value} (here : clean[f.name]? = some v) :
    f.kind.Admits v := by
  obtain ⟨faultless, looked⟩ := validate_ok_iff.mp valid
  rw [looked, cleaned, if_pos (mem_names member), default?_of_mem once member,
    Option.or_eq_some_iff] at here
  rcases here with given | ⟨_, filledIn⟩
  · exact Field.admits_given (faultless f member) given
  · exact typed f member v filledIn

theorem validate_valid (once : s.names.Nodup) (typed : s.Typed)
    (valid : s.validate input = .ok clean) : s.validate clean = .ok clean := by
  obtain ⟨faultless, looked⟩ := validate_ok_iff.mp valid
  refine validate_ok_iff.mpr ⟨fun f member r fault => ?_, fun name => ?_⟩
  · cases fault with
    | unfit here unfit => exact unfit (admits_of_valid once typed valid member here)
    | missing absent required blank =>
      rw [looked, cleaned, if_pos (mem_names member), Option.or_eq_none_iff] at absent
      exact faultless f member _ (.missing absent.1 required blank)
  · rw [cleaned, looked, cleaned]
    split
    · rw [Option.or_assoc, Option.or_self]
    · rfl

/-- An input is rejected exactly if some field has a fault, and for the fault of the first such
field. Of an accepted one, every name of the schema comes to what was submitted under it, or else to
the last default of that name, and all else is dropped. Nothing but what is submitted under these
names matters. If the names are apart and the defaults are values of their fields, so are all values
of what is accepted, and it is accepted again as it is. -/
theorem validation_exact (s : Schema) (input : Data) :
    (∀ r, s.validate input = .error r ↔ FirstFault s.fields input r) ∧
    ((∃ r, s.validate input = .error r) ↔ ∃ f ∈ s.fields, ∃ r, f.Fault input r) ∧
    (∀ clean, s.validate input = .ok clean →
      ∀ name : String, clean[name]? = s.cleaned input name) ∧
    (∀ other : Data, (∀ name ∈ s.names, other[name]? = input[name]?) →
      s.validate other = s.validate input) ∧
    (s.names.Nodup → s.Typed → ∀ clean, s.validate input = .ok clean →
      (∀ (name : String) (v : Value), clean[name]? = some v →
        ∃ f ∈ s.fields, f.name = name ∧ f.kind.Admits v) ∧
      s.validate clean = .ok clean) := by
  refine ⟨fun r => validate_error_iff, ?_, fun clean valid => (validate_ok_iff.mp valid).2, ?_, ?_⟩
  · simp only [validate_error_iff, exists_firstFault_iff]
  · intro other same
    exact takeAll_congr (fun f member => same f.name (mem_names member)) ∅
  · intro once typed clean valid
    refine ⟨fun name v here => ?_, validate_valid once typed valid⟩
    have known : name ∈ s.names := by
      rw [(validate_ok_iff.mp valid).2, cleaned] at here
      split at here
      · assumption
      · cases here
    obtain ⟨f, member, rfl⟩ := List.mem_map.mp known
    exact ⟨f, member, rfl, admits_of_valid once typed valid member here⟩

/-- A form for a device, whose port is filled in. -/
def deviceForm : Schema := hostForm.required "port" .port (some (.ofNat 80))

theorem deviceForm_default {f : Field} (member : f ∈ deviceForm.fields) {v : Value}
    (filledIn : f.default = some v) : f.kind = .port ∧ v = .ofNat 80 := by
  simp only [deviceForm, hostForm, required, push, empty, List.mem_append, List.mem_singleton,
    List.not_mem_nil, false_or] at member
  rcases member with rfl | rfl
  · cases filledIn
  · cases filledIn
    exact ⟨rfl, rfl⟩

theorem deviceForm_validated : deviceForm.names.Nodup ∧ deviceForm.Typed ∧
    ∃ clean, deviceForm.validate (Data.put ∅ "host" (some (.text "camera.lan"))) = .ok clean ∧
      clean["port"]? = some (.ofNat 80) ∧ deviceForm.validate clean = .ok clean := by
  have once : deviceForm.names.Nodup := by decide
  have typed : deviceForm.Typed := by
    intro f member v filledIn
    obtain ⟨port, rfl⟩ := deviceForm_default member filledIn
    exact port ▸ .port (by decide) (by decide)
  obtain ⟨_, _, looked, _, values⟩ :=
    validation_exact deviceForm (Data.put ∅ "host" (some (.text "camera.lan")))
  refine ⟨once, typed, _, rfl, ?_, (values once typed _ rfl).2⟩
  rw [looked _ rfl]
  rfl

end Schema

end Onboarding
