import Onboarding.Form.Codec
import Onboarding.Proofs.Json.Decoding
import Onboarding.Proofs.Json.Values
import Onboarding.Proofs.Form.Validation

/-! Written schemas read back. A field comes back as it was, but for a default that is null: that is
written like any other, and where it is read null stands for no default at all. -/
namespace Onboarding

/-- The value, unless it is null. -/
def Value.given? : Value → Option Value
  | null => none
  | v => some v

theorem Value.given?_eq_self {v : Value} : v.given? = some v ↔ v ≠ null := by
  cases v <;> simp [given?]

theorem Decoder.optional_ofValue {v : Value} (ordered : v.Ordered) {room : Nat}
    (enough : v.depth ≤ room) : optional value room (Tree.ofValue v) = some v.given? := by
  have reads := value_ofValue ordered enough
  cases v with
  | null => rfl
  | _ => exact congrArg (Option.map some) reads

theorem Decoder.tree_of_null {room : Nat} {t : Tree} (reads : value room t = some .null) :
    t = .null := by
  cases t with
  | null => rfl
  | list ts =>
    obtain ⟨_, _, enters⟩ := Option.bind_eq_some_iff.mp reads
    obtain ⟨_, _, made⟩ := Option.bind_eq_some_iff.mp enters
    cases made
  | object fs =>
    obtain ⟨_, _, enters⟩ := Option.bind_eq_some_iff.mp reads
    obtain ⟨_, _, made⟩ := Option.bind_eq_some_iff.mp enters
    cases made
  | _ => simp [value] at reads

/-- What may be left out is never read as null. -/
theorem Decoder.given_of_optional {room : Nat} {t : Tree} {v : Value}
    (reads : optional value room t = some (some v)) : v.Ordered ∧ v ≠ .null := by
  unfold optional at reads
  split at reads
  · cases reads
  · rename_i apart
    obtain ⟨w, readsValue, made⟩ := Option.map_eq_some_iff.mp reads
    cases made
    exact ⟨ordered_of_value readsValue, fun null => apart (tree_of_null (null ▸ readsValue))⟩

namespace FieldKind

/-- A kind is told by the fields that it is written with. -/
theorem kind?_fields (k : FieldKind) : Field.kind? k.fields = some k := by
  cases k with
  | select options =>
    have offered : (options.map Value.text).mapM Value.text? = some (options.map id) :=
      Decoder.mapM_map fun s _ => rfl
    change ((options.map Value.text).mapM Value.text?).map select = some (select options)
    rw [offered, Option.map_some, List.map_id]
  | _ => rfl

theorem ordered_fields (k : FieldKind) : ∀ f ∈ k.fields, f.2.Ordered := by
  cases k with
  | select options =>
    have items : ∀ v ∈ options.map Value.text, v.Ordered := by simp [Value.Ordered.text]
    exact List.forall_mem_cons.mpr ⟨.text _, List.forall_mem_singleton.mpr (.list items)⟩
  | _ => exact List.forall_mem_singleton.mpr (.text _)

end FieldKind

namespace Field

/-- What a field is read back as. -/
def reread (f : Field) : Field := { f with default := f.default.bind Value.given? }

theorem gather_fields (f : Field) : ∃ p,
    Decoder.Parts.gather ownNames (Tree.ofFields f.fields) ∅ = some p ∧
      p["name"]? = some (.text (some f.name)) ∧ p["required"]? = some (.bool f.required) ∧
      p["default"]? = f.default.map Tree.ofValue := by
  obtain ⟨name, kind, required, default⟩ := f
  cases kind <;> cases default <;>
    simp [fields, FieldKind.fields, Tree.ofFields, Tree.ofValue, Decoder.Parts.gather, ownNames,
      Std.ExtTreeMap.getElem_insert]

theorem kindFields_fields (f : Field) :
    kindFields (Tree.ofFields f.fields) = Tree.ofFields f.kind.fields := by
  obtain ⟨name, kind, required, default⟩ := f
  cases kind <;> cases default <;> rfl

theorem depth_field (f : Field) : ∀ g ∈ f.fields, g.2.depth + 1 ≤ f.toValue.depth := by
  exact fun g written =>
    Nat.succ_le_succ (Value.depthFields_le.mp (Nat.le_refl _) g written)

theorem decoder_toValue (f : Field) (ordered : ∀ v, f.default = some v → v.Ordered) {room : Nat}
    (enough : f.toValue.depth ≤ room) :
    decoder room (Tree.ofValue f.toValue) = some f.reread := by
  obtain ⟨rest, rfl⟩ : ∃ rest, room = rest + 1 := by
    exact Nat.exists_eq_add_of_le' (Nat.le_of_add_left_le enough)
  have enters : Decoder.enter (rest + 1) = some rest := Decoder.enter_eq_some.mpr rfl
  obtain ⟨p, gathers, name, required, default⟩ := f.gather_fields
  have within (g : String × Value) (written : g ∈ f.fields) : g.2.depth ≤ rest :=
    Nat.le_of_succ_le_succ (Nat.le_trans (f.depth_field g written) enough)
  have kind : Decoder.fieldValues rest (Tree.ofFields f.kind.fields) = some f.kind.fields :=
    Decoder.fieldValues_ofFields fun g member =>
      Decoder.value_ofValue (f.kind.ordered_fields g member) (within g (by simp [fields, member]))
  have filledIn : p.fieldD rest "default" (Decoder.optional Decoder.value) none =
      some f.reread.default := by
    rw [Decoder.Parts.fieldD, default]
    cases given : f.default with
    | none => simp [reread, given]
    | some v =>
      have shallow : v.depth ≤ rest := within ("default", v) (by simp [fields, given])
      simp [reread, given, Decoder.optional_ofValue (ordered v given) shallow]
  simp only [toValue, Tree.ofValue, decoder, enters, gathers,
    kindFields_fields, kind, FieldKind.kind?_fields, Decoder.Parts.field, name, required, filledIn,
    Option.bind_eq_bind, Option.bind_some, Decoder.text, Decoder.bool]
  rfl

theorem reread_eq_self {f : Field} : f.reread = f ↔ f.default ≠ some .null := by
  obtain ⟨name, kind, required, default⟩ := f
  cases default with
  | none => simp [reread]
  | some v => simp [reread, Value.given?_eq_self]

theorem reread_default_null {f : Field} (null : f.default = some .null) :
    f.reread.default = none := by
  rw [reread, null]
  rfl

/-- A default that is read is a value other than null. -/
theorem given_of_decoder {room : Nat} {t : Tree} {f : Field} (reads : decoder room t = some f) :
    ∀ v, f.default = some v → v.Ordered ∧ v ≠ .null := by
  cases t with
  | object fs =>
    simp only [decoder, Option.bind_eq_bind, Option.bind_eq_some_iff] at reads
    obtain ⟨room, _, p, _, fields, _, kind, _, name, _, required, _, default, filledIn, made⟩ := reads
    cases made
    rintro v rfl
    rw [Decoder.Parts.fieldD] at filledIn
    split at filledIn
    · cases filledIn
    · exact Decoder.given_of_optional filledIn
  | _ => cases reads

/-- What is submitted is judged alike. What is not is missing where it was filled in with null. -/
theorem take_reread {f : Field} {input : Data}
    (given : f.default = some .null → input[f.name]? ≠ none) :
    f.reread.take input = f.take input := by
  by_cases null : f.default = some .null
  · obtain ⟨v, here⟩ := Option.ne_none_iff_exists'.mp (given null)
    have kept : f.reread.check v = f.check v := rfl
    simp only [take, here, kept, show f.reread.name = f.name from rfl]
  · rw [reread_eq_self.mpr null]

/-- A fault is there after reading too. -/
theorem fault_reread {f : Field} {input : Data} {r : Rejection} (fault : f.Fault input r) :
    f.reread.Fault input r := by
  cases fault with
  | unfit given unfit => exact .unfit (f := f.reread) given unfit
  | missing absent required blank =>
    exact .missing (f := f.reread) absent required (by rw [reread, blank]; rfl)

/-- The only fault that reading brings in is that of a field that is not filled in with null. -/
theorem lost_of_fault {f : Field} {input : Data} {r : Rejection} (fault : f.reread.Fault input r)
    (faultless : ∀ r, ¬ f.Fault input r) :
    f.default = some .null ∧ input[f.name]? = none ∧ r = .missing f.name := by
  cases fault with
  | unfit given unfit => exact absurd (.unfit (f := f) given unfit) (faultless _)
  | missing absent required blank =>
    refine ⟨Classical.byContradiction fun other => ?_, absent, rfl⟩
    rw [reread_eq_self.mpr other] at blank
    exact faultless _ (.missing absent required blank)

end Field

namespace Schema

/-- The defaults list the fields of their objects in the order of the names. -/
def Ordered (s : Schema) : Prop := ∀ f ∈ s.fields, ∀ v, f.default = some v → v.Ordered

/-- What a schema is read back as. -/
def reread (s : Schema) : Schema := ⟨s.fields.map Field.reread⟩

/-- The schemas that are put together field by field. -/
inductive Built : Schema → Prop where
  | empty : Built empty
  | required {s : Schema} (before : Built s) (name : String) (kind : FieldKind)
    (default : Option Value) : Built (s.required name kind default)
  | optional {s : Schema} (before : Built s) (name : String) (kind : FieldKind) :
    Built (s.optional name kind)
  | extend {s t : Schema} (before : Built s) (other : Built t) : Built (s.extend t)

theorem mem_push {s : Schema} {f g : Field} : f ∈ (s.push g).fields ↔ f ∈ s.fields ∨ f = g := by
  rw [push, List.mem_append, List.mem_singleton]

/-- Only fields that are required are filled in. -/
theorem Built.required_of_default {s : Schema} (built : s.Built) :
    ∀ f ∈ s.fields, f.default ≠ none → f.required = true := by
  induction built with
  | empty => exact nofun
  | required _ name kind default ih =>
    intro f member filledIn
    rcases mem_push.mp member with before | rfl
    · exact ih f before filledIn
    · rfl
  | optional _ name kind ih =>
    intro f member filledIn
    rcases mem_push.mp member with before | rfl
    · exact ih f before filledIn
    · exact absurd rfl filledIn
  | extend _ _ ih ihOther =>
    intro f member filledIn
    rcases mem_of_foldl_place member with before | added
    · exact ih f before filledIn
    · exact ihOther f added filledIn

theorem decoder_toValue {s : Schema} (ordered : s.Ordered) {room : Nat}
    (enough : s.toValue.depth ≤ room) : decoder room (Tree.ofValue s.toValue) = some s.reread := by
  obtain ⟨rest, rfl⟩ := Nat.exists_eq_add_of_le' (Nat.le_of_add_left_le enough)
  have enters : Decoder.enter (rest + 1) = some rest := Decoder.enter_eq_some.mpr rfl
  have within := Value.depthItems_le.mp (Nat.le_of_succ_le_succ enough)
  have reads : (s.fields.map (Tree.ofValue ∘ Field.toValue)).mapM (Field.decoder rest) =
      some (s.fields.map Field.reread) :=
    Decoder.mapM_map fun f member =>
      f.decoder_toValue (ordered f member) (within f.toValue (List.mem_map_of_mem member))
  rw [decoder, toValue, Tree.ofValue, Tree.ofItems_eq, List.map_map, Decoder.items, enters,
    Option.bind_eq_bind, Option.bind_some, reads]
  rfl

theorem reread_eq_self {s : Schema} :
    s.reread = s ↔ ∀ f ∈ s.fields, f.default ≠ some .null := by
  obtain ⟨fs⟩ := s
  rw [reread, Schema.mk.injEq]
  induction fs with
  | nil => simp
  | cons f fs ih => rw [List.map_cons, List.cons.injEq, Field.reread_eq_self, ih, List.forall_mem_cons]

/-- A schema that was read is read back as itself. -/
theorem ordered_of_decoder {s : Schema} {room : Nat} {t : Tree} (reads : decoder room t = some s) :
    s.Ordered ∧ s.reread = s := by
  obtain ⟨fs, readsAll, rfl⟩ := Option.map_eq_some_iff.mp reads
  have given := Decoder.forall_of_items (fun _ _ _ reads => Field.given_of_decoder reads) readsAll
  refine ⟨fun f member v filledIn => (given f member v filledIn).1, ?_⟩
  exact reread_eq_self.mpr fun f member null => (given f member _ null).2 rfl

theorem takeAll_reread {fs : List Field} {input : Data}
    (given : ∀ f ∈ fs, f.default = some .null → input[f.name]? ≠ none) (taken : Data) :
    takeAll input (fs.map Field.reread) taken = takeAll input fs taken :=
  takeAll_map (g := Field.reread) (fun _ => rfl)
    (fun f member => Field.take_reread (given f member)) taken

/-- A schema is read back from its written form, less the defaults that are null: as itself exactly
if none is. An input that it rejects is rejected still, and one that it accepts is accepted alike
exactly if every name that null is filled in for is submitted. What has been read is read back as
itself from then on. -/
theorem written_read (s : Schema) (ordered : s.Ordered) (room : Nat)
    (enough : s.toValue.depth ≤ room) :
    decoder room (Tree.ofValue s.toValue) = some s.reread ∧
    (s.reread = s ↔ ∀ f ∈ s.fields, f.default ≠ some .null) ∧
    (∀ input r, s.validate input = .error r → ∃ r', s.reread.validate input = .error r') ∧
    (s.Built → ∀ input clean, s.validate input = .ok clean →
      (s.reread.validate input = .ok clean ↔
        ∀ f ∈ s.fields, f.default = some .null → input[f.name]? ≠ none)) ∧
    (∀ input clean r, s.validate input = .ok clean → s.reread.validate input = .error r →
      ∃ f ∈ s.fields, f.default = some .null ∧ input[f.name]? = none ∧ r = .missing f.name) ∧
    ∀ room', s.reread.toValue.depth ≤ room' →
      decoder room' (Tree.ofValue s.reread.toValue) = some s.reread := by
  have reads : decoder room (Tree.ofValue s.toValue) = some s.reread :=
    decoder_toValue ordered enough
  refine ⟨reads, reread_eq_self, fun input r rejected => ?_,
    fun built input clean valid => ⟨fun validAfter f member null absent => ?_, fun given => ?_⟩,
    fun input clean r valid rejected => ?_, fun room' enough' => ?_⟩
  · obtain ⟨f, member, r', fault⟩ := exists_firstFault_iff.mp ⟨r, validate_error_iff.mp rejected⟩
    obtain ⟨r'', first⟩ := exists_firstFault_iff.mpr
      ⟨f.reread, List.mem_map_of_mem member, r', Field.fault_reread fault⟩
    exact ⟨r'', validate_error_iff.mpr first⟩
  · have required : f.required = true :=
      built.required_of_default f member (by rw [null]; exact Option.some_ne_none _)
    have missing : f.reread.Fault input (.missing f.name) :=
      .missing (f := f.reread) absent required (Field.reread_default_null null)
    exact (validate_ok_iff.mp validAfter).1 f.reread (List.mem_map_of_mem member) _ missing
  · exact (takeAll_reread given ∅).trans valid
  · obtain ⟨before, g, after, split, _, fault⟩ := validate_error_iff.mp rejected
    have read : g ∈ s.reread.fields := split ▸ List.mem_append_right before List.mem_cons_self
    obtain ⟨f, member, rfl⟩ := List.mem_map.mp read
    obtain ⟨null, absent, same⟩ :=
      Field.lost_of_fault fault ((validate_ok_iff.mp valid).1 f member)
    exact ⟨f, member, null, absent, same⟩
  · obtain ⟨ordered', itself⟩ := ordered_of_decoder reads
    exact (decoder_toValue ordered' enough').trans (congrArg some itself)

theorem deviceForm_read : deviceForm.Ordered ∧ deviceForm.toValue.depth ≤ 2 ∧
    decoder 2 (Tree.ofValue deviceForm.toValue) = some deviceForm := by
  have ordered : deviceForm.Ordered := by
    intro f member v filledIn
    obtain ⟨_, rfl⟩ := deviceForm_default member filledIn
    exact .number _
  have enough : deviceForm.toValue.depth ≤ 2 := by decide
  obtain ⟨reads, itself, _⟩ := written_read deviceForm ordered 2 enough
  have back : deviceForm.reread = deviceForm := itself.mpr fun f member null => by
    cases (deviceForm_default member null).2
  exact ⟨ordered, enough, back ▸ reads⟩

/-- A form for a name that may be left open and is null then. -/
def blankForm : Schema := empty.required "name" .string (some .null)

/-- Its written form is that of a form in which the name has to be filled in. -/
theorem blankForm_read : blankForm.Built ∧
    blankForm.validate ∅ = .ok (Data.put ∅ "name" (some .null)) ∧
    ∃ back, decoder Decoder.levels (Tree.ofValue blankForm.toValue) = some back ∧
      back.fields.map Field.default = [none] ∧ back.validate ∅ = .error (.missing "name") :=
  ⟨.required .empty _ _ _, rfl, _, rfl, rfl, rfl⟩

end Schema

end Onboarding
