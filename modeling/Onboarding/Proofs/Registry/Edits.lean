import Onboarding.Proofs.Registry.Mutation

/-! The calls that change what is registered, taken apart into a decision and an edit. The decision
looks at the entry that the call is about and at the row of a unique id to be added; the edit acts
on each row of each table alone. So edits of different entries that have no unique id in common can
be made in either order, and neither of them has a part in the decision on the other. -/
namespace Onboarding

namespace Catalog

/-- Catalogs are the same that have the same rows. -/
theorem ext_rows {c d : Catalog} (entries : ∀ id, c.get? id = d.get? id)
    (byDomain : ∀ domain : String, c.byDomain[domain]? = d.byDomain[domain]?)
    (byUniqueId : ∀ i : Identity, c.byUniqueId[i]? = d.byUniqueId[i]?) : c = d := by
  obtain ⟨_, _, _⟩ := c
  obtain ⟨_, _, _⟩ := d
  rw [mk.injEq]
  exact ⟨Std.ExtTreeMap.ext_getElem? fun id => entries id,
    Std.ExtTreeMap.ext_getElem? fun domain => byDomain domain,
    Std.ExtTreeMap.ext_getElem? fun i => byUniqueId i⟩

namespace Edit

/-- The id whose entry is another one afterwards. -/
def target : Edit → String
  | restore e => e.id
  | amend _ _ e => e.id
  | discard e => e.id

/-- The entry of that id afterwards. -/
def entry? : Edit → Option Entry
  | restore e => some e
  | amend _ _ e => some e
  | discard _ => none

/-- The unique ids that are taken or given back. -/
def Touches (i : Identity) : Edit → Prop
  | restore e => e.identity? = some i
  | amend _ old e => old.identity? ≠ e.identity? ∧ (old.identity? = some i ∨ e.identity? = some i)
  | discard e => e.identity? = some i

/-- What becomes of the row of a unique id. -/
def row (i : Identity) (before : Option String) : Edit → Option String
  | restore e => if e.identity? = some i then some e.id else before
  | amend id old e =>
    if old.identity? = e.identity? then before
    else if e.identity? = some i then some id
    else if old.identity? = some i then none
    else before
  | discard e => if e.identity? = some i then none else before

/-- The domain in which the entry is listed. -/
def domain : Edit → String
  | restore e => e.domain
  | amend _ _ e => e.domain
  | discard e => e.domain

/-- What becomes of the listing of that domain. -/
def relist (before : Option (Std.ExtTreeSet String)) : Edit → Option (Std.ExtTreeSet String)
  | restore e => some ((before.getD ∅).insert e.id)
  | amend .. => before
  | discard e => before.map (·.erase e.id)

variable {a b : Edit} {c : Catalog}

theorem get?_apply (id : String) :
    (a.apply c).get? id = if a.target = id then a.entry? else c.get? id := by
  cases a with
  | restore e => exact c.get?_restore e id
  | amend holder old e => exact get?_amend old holder
  | discard e => exact c.get?_discard e id

theorem row_apply (i : Identity) : (a.apply c).byUniqueId[i]? = a.row i c.byUniqueId[i]? := by
  cases a with
  | restore e => exact row_restore i
  | amend id old e => exact row_reassign id old.identity? e.identity? i
  | discard e => exact row_discard i

theorem listing_apply (domain : String) : (a.apply c).byDomain[domain]? =
    if a.domain = domain then a.relist c.byDomain[domain]? else c.byDomain[domain]? := by
  cases a with
  | restore e =>
    have listed : (c.restore e).byDomain =
        c.byDomain.insert e.domain ((c.idsOf e.domain).insert e.id) := by
      unfold Catalog.restore
      cases e.identity? <;> rfl
    change (c.restore e).byDomain[domain]? = if e.domain = domain then _ else _
    rw [listed, Std.ExtTreeMap.getElem?_insert]
    by_cases here : e.domain = domain
    · subst here
      simp [relist, idsOf, Std.ExtTreeMap.getD_eq_getD_getElem?]
    · simp [here]
  | amend id old e =>
    have listed : (c.amend id old e).byDomain = c.byDomain := by
      unfold Catalog.amend reassign
      split
      · rfl
      · cases old.identity? <;> cases e.identity? <;> rfl
    simp only [apply, relist, listed, ite_self]
  | discard e =>
    have listed : (c.discard e).byDomain = c.byDomain.modify e.domain (·.erase e.id) := by
      unfold Catalog.discard
      cases e.identity? <;> rfl
    change (c.discard e).byDomain[domain]? = if e.domain = domain then _ else _
    rw [listed, Std.ExtTreeMap.getElem?_modify]
    by_cases here : e.domain = domain
    · subst here
      simp [relist]
    · simp [here]

theorem row_untouched {i : Identity} (untouched : ¬ a.Touches i) (before : Option String) :
    a.row i before = before := by
  cases a with
  | restore e => exact if_neg untouched
  | amend id old e =>
    dsimp only [row]
    split
    · rfl
    · rename_i moved
      rw [if_neg fun taken => untouched ⟨moved, .inr taken⟩,
        if_neg fun left => untouched ⟨moved, .inl left⟩]
  | discard e => exact if_neg untouched

section Listings

variable {id other : String} (ids : Std.ExtTreeSet String)

theorem insert_insert : (ids.insert id).insert other = (ids.insert other).insert id := by
  ext member
  simp only [Std.ExtTreeSet.mem_insert]
  exact or_left_comm

theorem insert_erase (apart : id ≠ other) :
    (ids.insert id).erase other = (ids.erase other).insert id := by
  ext member
  simp only [Std.ExtTreeSet.mem_insert, Std.ExtTreeSet.mem_erase, Std.LawfulEqCmp.compare_eq_iff_eq,
    ne_eq]
  grind

theorem insert_erase_empty (apart : id ≠ other) :
    ((∅ : Std.ExtTreeSet String).insert id).erase other =
      (∅ : Std.ExtTreeSet String).insert id := by
  rw [insert_erase ∅ apart, Std.ExtTreeSet.erase_empty]

theorem erase_erase : (ids.erase id).erase other = (ids.erase other).erase id := by
  ext member
  simp only [Std.ExtTreeSet.mem_erase]
  exact and_left_comm

end Listings

theorem relist_comm (apart : a.target ≠ b.target) (before : Option (Std.ExtTreeSet String)) :
    a.relist (b.relist before) = b.relist (a.relist before) := by
  cases a with
  | amend => rfl
  | restore e =>
    cases b with
    | amend => rfl
    | restore f => exact congrArg some (insert_insert _)
    | discard f =>
      cases before with
      | none => exact congrArg some (insert_erase_empty apart).symm
      | some ids => exact congrArg some (insert_erase ids apart).symm
  | discard e =>
    cases b with
    | amend => rfl
    | restore f =>
      cases before with
      | none => exact congrArg some (insert_erase_empty apart.symm)
      | some ids => exact congrArg some (insert_erase ids apart.symm)
    | discard f =>
      cases before with
      | none => rfl
      | some ids => exact congrArg some (erase_erase ids)

/-- Edits of different entries that have no unique id in common can be made in either order. -/
theorem apply_comm (apart : a.target ≠ b.target) (disjoint : ∀ i, ¬ (a.Touches i ∧ b.Touches i))
    (c : Catalog) : a.apply (b.apply c) = b.apply (a.apply c) := by
  apply ext_rows
  · intro id
    simp only [get?_apply]
    split
    · rename_i here
      rw [if_neg (here ▸ apart.symm)]
    · rfl
  · intro domain
    simp only [listing_apply]
    split <;> split
    · exact relist_comm apart _
    all_goals rfl
  · intro i
    simp only [row_apply]
    by_cases touched : a.Touches i
    · have other : ¬ b.Touches i := fun both => disjoint i ⟨touched, both⟩
      rw [row_untouched other, row_untouched other]
    · rw [row_untouched touched, row_untouched touched]

end Edit

end Catalog

namespace Registry.Mutation

open Catalog (Edit)

variable {c d : Catalog} {m : Mutation}

/-- The id of the entry that the call is about. -/
def target : Mutation → String
  | add e => e.id
  | update id _ _ => id
  | remove id => id

/-- The unique ids that the call takes, or is to take, or gives back. An update that leaves an entry
its unique id does neither. -/
def Touches (c : Catalog) (i : Identity) : Mutation → Prop
  | add e => e.identity? = some i
  | update id u now => ∃ old, c.get? id = some old ∧
    old.identity? ≠ (old.apply u now).1.identity? ∧
      (old.identity? = some i ∨ (old.apply u now).1.identity? = some i)
  | remove id => ∃ e, c.get? id = some e ∧ e.identity? = some i

/-- A call decides by the entry that it is about and by the rows of the unique ids that it touches.
-/
theorem edit?_congr (entry : d.get? m.target = c.get? m.target)
    (rows : ∀ i, m.Touches c i → d.byUniqueId[i]? = c.byUniqueId[i]?) : m.edit? d = m.edit? c := by
  cases m with
  | add e =>
    cases has : e.identity? with
    | none => simp only [edit?, has]
    | some i =>
      have same : i ∈ d.byUniqueId ↔ i ∈ c.byUniqueId := by
        rw [Std.ExtTreeMap.mem_iff_isSome_getElem?, Std.ExtTreeMap.mem_iff_isSome_getElem?,
          rows i has]
      simp only [edit?, has, same]
  | update id u now =>
    change d.get? id = c.get? id at entry
    simp only [edit?, entry]
  | remove id =>
    change d.get? id = c.get? id at entry
    simp only [edit?, entry]

/-- A call edits the entry that it is about, and touches no unique id but its own. -/
theorem edit_of (filed : c.Filed) {a : Edit} (decides : m.edit? c = .ok (some a)) :
    a.target = m.target ∧ ∀ i, a.Touches i → m.Touches c i := by
  cases decides_of_edit? decides with
  | add free => exact ⟨rfl, fun i taken => taken⟩
  | @update id u now old e held changed =>
    refine ⟨(Entry.apply_changed changed).1.trans (filed id old held), fun i touched => ?_⟩
    have same : (old.apply u now).1 = e := by rw [changed]
    exact ⟨old, held, same ▸ touched⟩
  | @remove id e held => exact ⟨filed id e held, fun i has => ⟨e, held, has⟩⟩

/-- An edit of another entry has no part in what a call decides, unless they have a unique id in
common. -/
theorem edit?_apply {a : Edit} (apart : a.target ≠ m.target)
    (disjoint : ∀ i, ¬ (m.Touches c i ∧ a.Touches i)) : m.edit? (a.apply c) = m.edit? c := by
  refine edit?_congr ?_ fun i touched => ?_
  · rw [Edit.get?_apply, if_neg apart]
  · rw [Edit.row_apply, Edit.row_untouched fun both => disjoint i ⟨touched, both⟩]

end Registry.Mutation

end Onboarding
