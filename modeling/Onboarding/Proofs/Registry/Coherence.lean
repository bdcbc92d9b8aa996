import Onboarding.Registry.Catalog

/-! The indexes of a catalog. The listing of the domains is exact whatever is done to the catalog
under fresh ids, and every row of the unique ids leads to an entry that has it. That every entry
is found under its unique id holds only as long as no entry is given the unique id of another. -/
namespace Onboarding.Catalog

variable {c : Catalog} {e : Entry} {id : String}

/-! What each operation does to the listings and to the rows of the unique ids. -/

@[simp] theorem idsOf_assign (i : Option Identity) (holder domain : String) :
    (c.assign i holder).idsOf domain = c.idsOf domain := by
  cases i <;> rfl

@[simp] theorem idsOf_free (i : Option Identity) (domain : String) :
    (c.free i).idsOf domain = c.idsOf domain := by
  cases i <;> rfl

@[simp] theorem idsOf_revise (domain : String) : (c.revise e).idsOf domain = c.idsOf domain := rfl

@[simp] theorem idsOf_reassign (holder : String) (old new : Option Identity) (domain : String) :
    (c.reassign holder old new).idsOf domain = c.idsOf domain := by
  unfold reassign
  split <;> simp

theorem mem_idsOf_store {domain : String} :
    id ∈ (c.store e).idsOf domain ↔ e.domain = domain ∧ e.id = id ∨ id ∈ c.idsOf domain := by
  simp only [store, idsOf, Std.ExtTreeMap.getD_insert, Std.LawfulEqCmp.compare_eq_iff_eq]
  by_cases here : e.domain = domain
  · simp [here, Std.ExtTreeSet.mem_insert]
  · simp [here]

theorem idsOf_discard (domain : String) :
    (c.discard e).idsOf domain =
      if e.domain = domain then (c.idsOf domain).erase e.id else c.idsOf domain := by
  rw [discard, idsOf_free]
  simp only [idsOf, Std.ExtTreeMap.getD_eq_getD_getElem?, Std.ExtTreeMap.getElem?_modify,
    Std.LawfulEqCmp.compare_eq_iff_eq]
  by_cases here : e.domain = domain
  · subst here
    cases c.byDomain[e.domain]? <;> simp
  · simp [here]

theorem mem_idsOf_discard {domain : String} :
    id ∈ (c.discard e).idsOf domain ↔ id ∈ c.idsOf domain ∧ ¬(e.domain = domain ∧ e.id = id) := by
  rw [idsOf_discard]
  by_cases here : e.domain = domain
  · simp [here, Std.ExtTreeSet.mem_erase, and_comm]
  · simp [here]

@[simp] theorem byUniqueId_store : (c.store e).byUniqueId = c.byUniqueId := rfl

@[simp] theorem byUniqueId_revise : (c.revise e).byUniqueId = c.byUniqueId := rfl

@[simp] theorem row_assign (i : Option Identity) (holder : String) (j : Identity) :
    (c.assign i holder).byUniqueId[j]? = if i = some j then some holder else c.byUniqueId[j]? := by
  cases i <;> simp [assign, Std.ExtTreeMap.getElem?_insert]

@[simp] theorem row_free (i : Option Identity) (j : Identity) :
    (c.free i).byUniqueId[j]? = if i = some j then none else c.byUniqueId[j]? := by
  cases i <;> simp [free, Std.ExtTreeMap.getElem?_erase]

@[simp] theorem row_restore (j : Identity) :
    (c.restore e).byUniqueId[j]? =
      if e.identity? = some j then some e.id else c.byUniqueId[j]? := by
  simp [restore]

@[simp] theorem row_discard (j : Identity) :
    (c.discard e).byUniqueId[j]? = if e.identity? = some j then none else c.byUniqueId[j]? := by
  simp [discard]

theorem row_reassign (holder : String) (old new : Option Identity) (j : Identity) :
    (c.reassign holder old new).byUniqueId[j]? =
      if old = new then c.byUniqueId[j]?
      else if new = some j then some holder
      else if old = some j then none
      else c.byUniqueId[j]? := by
  unfold reassign
  split <;> simp

/-- Puts a changed entry in the place of the one of the id, with the unique id it has now. -/
def amend (c : Catalog) (id : String) (old e : Entry) : Catalog :=
  (c.revise e).reassign id old.identity? e.identity?

@[simp] theorem get?_amend (old : Entry) (holder : String) :
    (c.amend holder old e).get? id = if e.id = id then some e else c.get? id := by
  simp [amend]

theorem amend_same {old : Entry} (same : old.identity? = e.identity?) :
    c.amend id old e = c.revise e := by
  simp [amend, reassign, same]

/-- Every entry is stored under its own id. -/
def Filed (c : Catalog) : Prop := ∀ id e, c.get? id = some e → e.id = id

/-- No two entries share a unique id of a domain. -/
def Unique (c : Catalog) : Prop :=
  ∀ id id' e e' i, c.get? id = some e → c.get? id' = some e' →
    e.identity? = some i → e'.identity? = some i → id = id'

/-- Every entry that has a unique id is found under it. -/
def Found (c : Catalog) : Prop :=
  ∀ id e i, c.get? id = some e → e.identity? = some i → c.byUniqueId[i]? = some id

/-- Nothing but what is there is listed under a domain or in the rows of the unique ids, and
under its domain every entry is listed. -/
structure Indexed (c : Catalog) : Prop where
  filed : c.Filed
  listed : ∀ domain id, id ∈ c.idsOf domain ↔ ∃ e, c.get? id = some e ∧ e.domain = domain
  sound : ∀ i id, c.byUniqueId[i]? = some id → ∃ e, c.get? id = some e ∧ e.identity? = some i

theorem Found.unique (found : c.Found) : c.Unique := by
  intro id id' e e' i held held' has has'
  have row := found id e i held has
  have row' := found id' e' i held' has'
  exact Option.some.inj (row.symm.trans row')

theorem filed_empty : ({} : Catalog).Filed := by
  intro id e held
  simp [get?] at held

theorem found_empty : ({} : Catalog).Found := by
  intro id e i held
  simp [get?] at held

theorem indexed_empty : ({} : Catalog).Indexed :=
  ⟨filed_empty, by simp [idsOf, get?], by simp⟩

/-! Filing. -/

theorem Filed.restore (filed : c.Filed) (e : Entry) : (c.restore e).Filed := by
  intro id f held
  rw [get?_restore] at held
  split at held
  · cases held
    assumption
  · exact filed id f held

theorem Filed.discard (filed : c.Filed) (e : Entry) : (c.discard e).Filed := by
  intro id f held
  rw [get?_discard] at held
  split at held
  · cases held
  · exact filed id f held

theorem Filed.amend (filed : c.Filed) (id : String) (old e : Entry) :
    (c.amend id old e).Filed := by
  intro id f held
  rw [get?_amend] at held
  split at held
  · cases held
    assumption
  · exact filed id f held

theorem Filed.revise (filed : c.Filed) (e : Entry) : (c.revise e).Filed := by
  have same : c.amend e.id e e = c.revise e := amend_same rfl
  rw [← same]
  exact filed.amend e.id e e

/-! Finding by unique id. -/

theorem Found.restore (found : c.Found)
    (alone : ∀ id f i, c.get? id = some f → e.identity? = some i → f.identity? = some i →
      e.id = id) : (c.restore e).Found := by
  intro id f i held has
  rw [get?_restore] at held
  rw [row_restore]
  split at held
  · rename_i here
    cases held
    simp [has, here]
  · rename_i elsewhere
    have other : e.identity? ≠ some i := fun same => elsewhere (alone id f i held same has)
    simp [other, found id f i held has]

theorem Found.discard (found : c.Found) (held : c.get? e.id = some e) : (c.discard e).Found := by
  intro id f i kept has
  rw [get?_discard] at kept
  rw [row_discard]
  split at kept
  · cases kept
  · rename_i elsewhere
    have other : e.identity? ≠ some i := fun same =>
      elsewhere (found.unique e.id id e f i held kept same has)
    simp [other, found id f i kept has]

theorem Found.amend (found : c.Found) {old : Entry} (held : c.get? e.id = some old)
    (alone : ∀ id f i, c.get? id = some f → e.identity? = some i → f.identity? = some i →
      e.id = id) : (c.amend e.id old e).Found := by
  intro id f i kept has
  rw [get?_amend] at kept
  rw [Catalog.amend, row_reassign, byUniqueId_revise]
  split at kept
  · rename_i here
    cases kept
    split
    · rename_i same
      rw [← here]
      exact found e.id old i held (same.trans has)
    · simp [here]
  · rename_i elsewhere
    have notNew : e.identity? ≠ some i := fun same => elsewhere (alone id f i kept same has)
    have notOld : old.identity? ≠ some i := fun same =>
      elsewhere (found.unique e.id id old f i held kept same has)
    simp [notNew, notOld, found id f i kept has]

theorem Found.revise (found : c.Found) {old : Entry} (held : c.get? e.id = some old)
    (same : e.identity? = old.identity?) : (c.revise e).Found := by
  rw [← amend_same same.symm]
  refine found.amend held fun id f i held' has has' => ?_
  exact found.unique e.id id old f i held held' (same ▸ has) has'

/-! All indexes. -/

theorem Indexed.restore (indexed : c.Indexed) (fresh : c.get? e.id = none) :
    (c.restore e).Indexed := by
  refine ⟨indexed.filed.restore e, fun domain id => ?_, fun i id row => ?_⟩
  · rw [Catalog.restore, mem_idsOf_store, idsOf_assign, indexed.listed, ← Catalog.restore,
      get?_restore]
    by_cases here : e.id = id
    · subst here
      simp [fresh]
    · simp [here]
  · rw [row_restore] at row
    rw [get?_restore]
    split at row
    · rename_i has
      cases row
      exact ⟨e, by simp, has⟩
    · obtain ⟨f, held, has⟩ := indexed.sound i id row
      have elsewhere : e.id ≠ id := by
        rintro rfl
        simp [fresh] at held
      exact ⟨f, by simp [elsewhere, held], has⟩

theorem Indexed.discard (indexed : c.Indexed) (held : c.get? e.id = some e) :
    (c.discard e).Indexed := by
  refine ⟨indexed.filed.discard e, fun domain id => ?_, fun i id row => ?_⟩
  · rw [mem_idsOf_discard, indexed.listed, get?_discard]
    by_cases here : e.id = id
    · subst here
      simp [held]
    · simp [here]
  · rw [row_discard] at row
    rw [get?_discard]
    split at row
    · cases row
    · rename_i other
      obtain ⟨f, kept, has⟩ := indexed.sound i id row
      have elsewhere : e.id ≠ id := by
        rintro rfl
        rw [held] at kept
        cases kept
        exact other has
      exact ⟨f, by simp [elsewhere, kept], has⟩

theorem Indexed.amend (indexed : c.Indexed) {old : Entry} (held : c.get? e.id = some old)
    (domain : e.domain = old.domain) : (c.amend e.id old e).Indexed := by
  refine ⟨indexed.filed.amend e.id old e, fun d id => ?_, fun i id row => ?_⟩
  · rw [Catalog.amend, idsOf_reassign, idsOf_revise, indexed.listed, ← Catalog.amend, get?_amend]
    by_cases here : e.id = id
    · subst here
      simp [held, domain]
    · simp [here]
  · rw [Catalog.amend, row_reassign, byUniqueId_revise] at row
    rw [get?_amend]
    split at row
    · rename_i same
      obtain ⟨f, kept, has⟩ := indexed.sound i id row
      by_cases here : e.id = id
      · subst here
        rw [held] at kept
        cases kept
        exact ⟨e, by simp, same ▸ has⟩
      · exact ⟨f, by simp [here, kept], has⟩
    split at row
    · rename_i has
      cases row
      exact ⟨e, by simp, has⟩
    split at row
    · cases row
    · rename_i other
      obtain ⟨f, kept, has⟩ := indexed.sound i id row
      have elsewhere : e.id ≠ id := by
        rintro rfl
        rw [held] at kept
        cases kept
        exact other has
      exact ⟨f, by simp [elsewhere, kept], has⟩

theorem Indexed.revise (indexed : c.Indexed) {old : Entry} (held : c.get? e.id = some old)
    (domain : e.domain = old.domain) (same : e.identity? = old.identity?) :
    (c.revise e).Indexed := by
  rw [← amend_same same.symm]
  exact indexed.amend held domain

/-! What the look-ups of an indexed catalog answer. -/

theorem Filed.mem_toList (filed : c.Filed) : e ∈ c.toList ↔ c.get? e.id = some e := by
  rw [Catalog.mem_toList]
  constructor
  · rintro ⟨id, held⟩
    rw [filed id e held]
    exact held
  · exact fun held => ⟨e.id, held⟩

theorem Filed.pairwise_toList (filed : c.Filed) : c.toList.Pairwise (·.id ≠ ·.id) := by
  rw [toList, List.pairwise_map]
  refine Std.ExtTreeMap.distinct_keys_toList.imp_of_mem fun {a b} first second apart => ?_
  have idOf : ∀ p ∈ c.entries.toList, p.2.id = p.1 := fun p member =>
    filed p.1 p.2 (Std.ExtTreeMap.mem_toList_iff_getElem?_eq_some.mp member)
  rw [idOf a first, idOf b second]
  exact fun same => apart (Std.LawfulEqCmp.compare_eq_iff_eq.mpr same)

theorem unique_single (single : c.toList.length ≤ 1) : c.Unique := by
  intro id id' e e' i held held' _ _
  have rows : c.entries.toList.length ≤ 1 := by simpa [toList] using single
  have first : (id, e) ∈ c.entries.toList := Std.ExtTreeMap.mem_toList_iff_getElem?_eq_some.mpr held
  have second : (id', e') ∈ c.entries.toList :=
    Std.ExtTreeMap.mem_toList_iff_getElem?_eq_some.mpr held'
  generalize c.entries.toList = table at rows first second
  cases table with
  | nil => simp at first
  | cons row others =>
    obtain rfl : others = [] := List.length_eq_zero_iff.mp (by simpa using rows)
    have same := (List.mem_singleton.mp first).trans (List.mem_singleton.mp second).symm
    exact congrArg Prod.fst same

/-- What is read off all entries is told by what is read off each of them. -/
theorem toList_map_eq {β : Type} {c d : Catalog} {f g : Entry → β}
    (same : ∀ id, (c.get? id).map f = (d.get? id).map g) : c.toList.map f = d.toList.map g := by
  have tables : c.entries.map (fun _ => f) = d.entries.map fun _ => g := by
    ext id : 1
    rw [Std.ExtTreeMap.getElem?_map, Std.ExtTreeMap.getElem?_map]
    exact same id
  have lists := congrArg (fun t : Table String β => t.toList.map (·.2)) tables
  simp only [Std.ExtTreeMap.toList_map, List.map_map] at lists
  rw [toList, toList, List.map_map, List.map_map]
  exact lists

theorem Filed.mem_ofDomain (filed : c.Filed) {domain : String} :
    e ∈ c.ofDomain domain ↔ e.id ∈ c.idsOf domain ∧ c.get? e.id = some e := by
  simp only [ofDomain, List.mem_filterMap, Std.ExtTreeSet.mem_toList]
  constructor
  · rintro ⟨id, listed, held⟩
    rw [filed id e held]
    exact ⟨listed, held⟩
  · rintro ⟨listed, held⟩
    exact ⟨e.id, listed, held⟩

theorem Filed.pairwise_ofDomain (filed : c.Filed) (domain : String) :
    (c.ofDomain domain).Pairwise (·.id ≠ ·.id) := by
  rw [ofDomain, List.pairwise_filterMap]
  refine Std.ExtTreeSet.distinct_toList.imp fun {a b} apart => ?_
  intro e held f held' same
  rw [filed a e held, filed b f held'] at same
  exact apart (Std.LawfulEqCmp.compare_eq_iff_eq.mpr same)

theorem Indexed.mem_ofDomain (indexed : c.Indexed) {domain : String} :
    e ∈ c.ofDomain domain ↔ c.get? e.id = some e ∧ e.domain = domain := by
  rw [indexed.filed.mem_ofDomain, indexed.listed]
  constructor
  · rintro ⟨⟨f, held, here⟩, held'⟩
    rw [held] at held'
    cases held'
    exact ⟨held, here⟩
  · rintro ⟨held, here⟩
    exact ⟨⟨e, held, here⟩, held⟩

theorem Filed.holder?_eq_some_iff (filed : c.Filed) {i : Identity} :
    c.holder? i = some e ↔ c.byUniqueId[i]? = some e.id ∧ c.get? e.id = some e := by
  rw [holder?, Option.bind_eq_some_iff]
  constructor
  · rintro ⟨id, row, held⟩
    rw [filed id e held]
    exact ⟨row, held⟩
  · rintro ⟨row, held⟩
    exact ⟨e.id, row, held⟩

theorem Indexed.holder?_sound (indexed : c.Indexed) {i : Identity}
    (answer : c.holder? i = some e) : c.get? e.id = some e ∧ e.identity? = some i := by
  obtain ⟨row, held⟩ := indexed.filed.holder?_eq_some_iff.mp answer
  obtain ⟨f, held', has⟩ := indexed.sound i e.id row
  rw [held] at held'
  cases held'
  exact ⟨held, has⟩

/-- A unique id that no entry has is free. -/
theorem Indexed.free (indexed : c.Indexed) {i : Identity}
    (none : ∀ id e, c.get? id = some e → e.identity? ≠ some i) : i ∉ c.byUniqueId := by
  intro taken
  obtain ⟨id, row⟩ := Option.isSome_iff_exists.mp (Std.ExtTreeMap.mem_iff_isSome_getElem?.mp taken)
  obtain ⟨e, held, has⟩ := indexed.sound i id row
  exact none id e held has

theorem Found.holder? (found : c.Found) {i : Identity} (held : c.get? e.id = some e)
    (has : e.identity? = some i) : c.holder? i = some e := by
  rw [Catalog.holder?, found e.id e i held has, Option.bind_some, held]

theorem holder?_iff (indexed : c.Indexed) (found : c.Found) {i : Identity} :
    c.holder? i = some e ↔ c.get? e.id = some e ∧ e.identity? = some i :=
  ⟨indexed.holder?_sound, fun ⟨held, has⟩ => found.holder? held has⟩

end Onboarding.Catalog
