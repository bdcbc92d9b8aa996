import Onboarding.Proofs.Entry.Settings
import Onboarding.Proofs.Registry.Course

/-! Updates that give an entry new data or options. An entry whose values are the same keeps those
that it has; texts, truth values and integers are the same only as themselves, so an entry that is
given nothing else has exactly what it was given. -/
namespace Onboarding

/-- A text, a truth value or an integer. -/
def Value.Plain : Value → Prop
  | bool _ | text _ | number (.integer _) => True
  | _ => False

theorem Value.Plain.eq_of_same {v w : Value} (plain : w.Plain) (same : v.same w = true) :
    v = w := by
  match w, plain with
  | bool b, _ => cases v <;> simp_all [Value.same]
  | text s, _ => cases v <;> simp_all [Value.same]
  | number (.integer n), _ =>
    cases v with
    | number m => cases m <;> simp_all [Value.same, Number.same]
    | _ => simp [Value.same] at same

namespace Data

def Plain (d : Data) : Prop := ∀ (name : String) (v : Value), d[name]? = some v → v.Plain

theorem plain_empty : Plain ∅ := by
  intro name v here
  simp at here

theorem Plain.insert {d : Data} (plain : d.Plain) (name : String) {v : Value} (last : v.Plain) :
    Plain (Std.ExtTreeMap.insert d name v) := by
  intro other w here
  rw [Std.ExtTreeMap.getElem?_insert] at here
  split at here
  · cases here
    exact last
  · exact plain other w here

theorem sameFields_plain : ∀ {fs gs : List (String × Value)}, (∀ g ∈ gs, g.2.Plain) →
    Value.sameFields fs gs = true → fs = gs
  | [], [], _, _ => rfl
  | [], _ :: _, _, same => by simp [Value.sameFields] at same
  | _ :: _, [], _, same => by simp [Value.sameFields] at same
  | (j, v) :: fs, (k, w) :: gs, plain, same => by
    obtain ⟨first, others⟩ := List.forall_mem_cons.mp plain
    simp only [Value.sameFields, Bool.and_eq_true, beq_iff_eq] at same
    obtain ⟨⟨rfl, values⟩, rest⟩ := same
    rw [first.eq_of_same values, sameFields_plain others rest]

/-- Plain data is the same only as itself. -/
theorem Plain.eq_of_same {a b : Data} (plain : b.Plain) (same : a.same b = true) : a = b := by
  apply Std.ExtTreeMap.toList_inj.mp
  refine sameFields_plain (fun field member => ?_) same
  exact plain field.1 field.2 (Std.ExtTreeMap.mem_toList_iff_getElem?_eq_some.mp member)

end Data

namespace Entry

variable (e : Entry) {u : Update} (now : Instant) {d : Data}

theorem same_data_apply (given : u.data = some d) : (e.apply u now).1.data.same d = true := by
  have settled := (e.same_settings_apply u now).data
  rwa [Update.onto, given] at settled

theorem same_options_apply (given : u.options = some d) :
    (e.apply u now).1.options.same d = true := by
  have settled := (e.same_settings_apply u now).options
  rwa [Update.onto, given] at settled

end Entry

namespace Registry

variable {r : Registry} {id : String} {u : Entry.Update} {now : Instant}

/-- Every look-up after an update, also after one that the storage failed. -/
theorem get?_update (filed : r.Filed) (id : String) (u : Entry.Update) (now : Instant)
    (other : String) :
    (r.update id u now).1.get? other =
      if id = other then (r.get? id).map fun e => (e.apply u now).1 else r.get? other := by
  cases held : r.get? id with
  | none =>
    rw [r.update_absent held]
    split
    · rename_i here
      rw [← here, held]
      rfl
    · rfl
  | some old =>
    rcases applied : old.apply u now with ⟨e, changes⟩
    have named := filed id old held
    cases changes with
    | false =>
      obtain rfl := Entry.apply_unchanged applied
      rw [r.update_unchanged held applied, Option.map_some, applied]
      split
      · rename_i here
        rw [← here, held]
      · rfl
    | true =>
      rw [r.update_changed held applied, saved_fst, Option.map_some, applied]
      change (r.amend id old e).get? other = _
      rw [Catalog.get?_amend, (Entry.apply_changed applied).1, named]

theorem update_ok {changed : Bool} (updated : (r.update id u now).2 = .ok changed) :
    ∃ old, r.get? id = some old := by
  cases held : r.get? id with
  | none =>
    rw [r.update_absent held] at updated
    cases updated
  | some old => exact ⟨old, rfl⟩

variable {d : Data} {changed : Bool}

/-- An entry that is given plain data has it. -/
theorem data_update (filed : r.Filed) (plain : d.Plain) (given : u.data = some d)
    (updated : (r.update id u now).2 = .ok changed) :
    ∃ e, (r.update id u now).1.get? id = some e ∧ e.data = d := by
  obtain ⟨old, held⟩ := update_ok updated
  rw [get?_update filed, if_pos rfl, held]
  exact ⟨_, rfl, plain.eq_of_same (old.same_data_apply now given)⟩

/-- An entry that is given plain options has them. -/
theorem options_update (filed : r.Filed) (plain : d.Plain) (given : u.options = some d)
    (updated : (r.update id u now).2 = .ok changed) :
    ∃ e, (r.update id u now).1.get? id = some e ∧ e.options = d := by
  obtain ⟨old, held⟩ := update_ok updated
  rw [get?_update filed, if_pos rfl, held]
  exact ⟨_, rfl, plain.eq_of_same (old.same_options_apply now given)⟩

/-- After a mutation an entry is there because it was before, or was added, or was updated. -/
theorem mutate_origin (filed : r.Filed) (m : Mutation) {e : Entry}
    (held : (m.run r).1.get? id = some e) : m = .add e ∨ ∃ old, r.get? id = some old ∧
      (e = old ∨ ∃ u now, m = .update id u now ∧ old.apply u now = (e, true)) := by
  rcases Change.catalog r (.mutate m) with same | ⟨_, ⟨⟩, step⟩
  · change (m.run r).1.toCatalog = r.toCatalog at same
    rw [same] at held
    exact .inr ⟨e, held, .inl rfl⟩
  · exact step.origin filed held

theorem add_ok {e e' : Entry} (added : (r.add e).2 = .ok e') :
    e' = e ∧ (r.add e).1.get? e.id = some e := by
  by_cases free : ∀ i, e.identity? = some i → i ∉ r.byUniqueId
  · rw [r.add_free free] at added ⊢
    have there : ({ r with toCatalog := r.restore e } : Registry).get? e.id = some e := by simp
    rw [saved_fst]
    refine ⟨?_, there⟩
    unfold saved at added
    split at added <;> cases added
    rfl
  · simp only [not_forall, not_not] at free
    obtain ⟨i, has, taken⟩ := free
    rw [r.add_taken has taken] at added
    cases added

theorem data_lifecycle {s : Registry} (filed : r.Filed) (moved : Lifecycle r s) {e : Entry}
    (held : s.get? id = some e) : ∃ old, r.get? id = some old ∧ e.data = old.data := by
  cases moved with
  | turn busy => exact ⟨e, held, rfl⟩
  | @phase place old new target reason before led =>
    obtain ⟨named, _, _, kept⟩ := Entry.enter_same led
    change (r.revise new).get? id = some e at held
    rw [Catalog.get?_revise] at held
    split at held
    · rename_i here
      cases held
      obtain rfl : place = id := (filed place old before).symm.trans (named.symm.trans here)
      have data : e.persisted.data = old.persisted.data := congrArg Entry.data kept
      exact ⟨old, before, data⟩
    · exact ⟨e, held, rfl⟩

end Registry

end Onboarding
