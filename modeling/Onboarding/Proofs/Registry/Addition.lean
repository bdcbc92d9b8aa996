import Onboarding.Proofs.Registry.Uniqueness

/-! What adding an entry does to the entries that are there. The unique id of the new entry is
checked, its id is not: an entry that is registered under it already is lost, and everything that
led to it leads to the new one. -/
namespace Onboarding

namespace Catalog

variable {c : Catalog} {e f : Entry}

/-- The entry is registered under its id, listed once and only under its domain, and the only one
that has its unique id. -/
structure Stands (c : Catalog) (f : Entry) : Prop where
  held : c.get? f.id = some f
  listed : ∀ domain, f ∈ c.ofDomain domain ↔ f.domain = domain
  once : ∀ domain, (c.ofDomain domain).Pairwise (·.id ≠ ·.id)
  holder : ∀ i, f.identity? = some i → c.holder? i = some f
  alone : ∀ id g i, c.get? id = some g → f.identity? = some i → g.identity? = some i → g = f

/-- All that leads to the one entry, under its id, in its domain or by its unique id, leads to the
other one. -/
structure Displaced (c : Catalog) (f e : Entry) : Prop where
  held : c.get? f.id = some e
  listed : e ∈ c.ofDomain f.domain
  holder : ∀ i, f.identity? = some i → c.holder? i = some e

/-- A registered entry has the unique id of the entry. -/
def Contested (c : Catalog) (e : Entry) : Prop :=
  ∃ g ∈ c.toList, ∃ i, g.identity? = some i ∧ e.identity? = some i

theorem Displaced.eq_of_stands (displaced : c.Displaced f e) (stands : c.Stands f) : f = e :=
  Option.some.inj (stands.held.symm.trans displaced.held)

theorem stands (indexed : c.Indexed) (found : c.Found) (held : c.get? f.id = some f) :
    c.Stands f where
  held := held
  listed domain := by simp [indexed.mem_ofDomain, held]
  once := indexed.filed.pairwise_ofDomain
  holder i has := found.holder? held has
  alone id g i held' has has' := by
    have same : id = f.id := found.unique id f.id g f i held' held has' has
    rw [same, held] at held'
    exact (Option.some.inj held').symm

theorem contested_iff (indexed : c.Indexed) (found : c.Found) :
    c.Contested e ↔ ∃ i, e.identity? = some i ∧ i ∈ c.byUniqueId := by
  constructor
  · rintro ⟨g, member, i, has, wanted⟩
    have row := found g.id g i (indexed.filed.mem_toList.mp member) has
    exact ⟨i, wanted, Std.ExtTreeMap.mem_iff_isSome_getElem?.mpr (by simp [row])⟩
  · rintro ⟨i, wanted, taken⟩
    obtain ⟨id, row⟩ :=
      Option.isSome_iff_exists.mp (Std.ExtTreeMap.mem_iff_isSome_getElem?.mp taken)
    obtain ⟨g, held, has⟩ := indexed.sound i id row
    exact ⟨g, mem_toList.mpr ⟨id, held⟩, i, has, wanted⟩

theorem Stands.restore (stands : c.Stands f) (filed : c.Filed) (apart : f.id = e.id → f = e)
    (other : ∀ i, f.identity? = some i → e.identity? ≠ some i) : (c.restore e).Stands f := by
  have held : (c.restore e).get? f.id = some f := by
    rw [get?_restore]
    split
    · rename_i same
      rw [apart same.symm]
    · exact stands.held
  constructor
  · exact held
  · intro domain
    rw [(filed.restore e).mem_ofDomain, ← stands.listed, filed.mem_ofDomain, Catalog.restore,
      mem_idsOf_store, idsOf_assign, ← Catalog.restore]
    constructor
    · rintro ⟨⟨here, same⟩ | listed, _⟩
      · have listed := (stands.listed domain).mpr (apart same.symm ▸ here)
        exact filed.mem_ofDomain.mp listed
      · exact ⟨listed, stands.held⟩
    · rintro ⟨listed, _⟩
      exact ⟨.inr listed, held⟩
  · exact (filed.restore e).pairwise_ofDomain
  · intro i has
    have row := (filed.holder?_eq_some_iff.mp (stands.holder i has)).1
    rw [(filed.restore e).holder?_eq_some_iff]
    exact ⟨by simp [other i has, row], held⟩
  · intro id g i held' has has'
    rw [get?_restore] at held'
    split at held'
    · cases held'
      exact absurd has' (other i has)
    · exact stands.alone id g i held' has has'

theorem Stands.displaced (stands : c.Stands f) (filed : c.Filed) (same : f.id = e.id) :
    (c.restore e).Displaced f e := by
  have held : (c.restore e).get? e.id = some e := by simp
  constructor
  · rw [same]
    exact held
  · have listed := (filed.mem_ofDomain.mp ((stands.listed f.domain).mpr rfl)).1
    rw [(filed.restore e).mem_ofDomain]
    refine ⟨?_, held⟩
    simp [Catalog.restore, mem_idsOf_store, ← same, listed]
  · intro i has
    have row := (filed.holder?_eq_some_iff.mp (stands.holder i has)).1
    rw [(filed.restore e).holder?_eq_some_iff]
    exact ⟨by simp [row, same], held⟩

end Catalog

namespace Registry

variable {r : Registry} {e f : Entry}

theorem add_contested (indexed : r.Indexed) (found : r.Found) (contested : r.Contested e) :
    ∃ i, e.identity? = some i ∧ r.add e = (r, .error (.alreadyExists i)) := by
  obtain ⟨i, has, taken⟩ := (Catalog.contested_iff indexed found).mp contested
  exact ⟨i, has, r.add_taken has taken⟩

theorem add_uncontested (indexed : r.Indexed) (found : r.Found) (uncontested : ¬ r.Contested e) :
    (r.add e).1.toCatalog = r.restore e := by
  rw [r.add_free fun i has taken =>
    uncontested ((Catalog.contested_iff indexed found).mpr ⟨i, has, taken⟩), saved_fst]

/-- An entry that is not refused takes the place of the one under its id. -/
theorem add_displaces (indexed : r.Indexed) (found : r.Found) (uncontested : ¬ r.Contested e)
    (held : r.get? e.id = some f) : (r.add e).1.Displaced f e := by
  have same := indexed.filed e.id f held
  rw [add_uncontested indexed found uncontested]
  exact (Catalog.stands indexed found (same ▸ held)).displaced indexed.filed same

/-- Of a coherent registry, an entry stands after an addition exactly if the new entry is refused,
or is no other one under the same id. -/
theorem add_stands_iff (indexed : r.Indexed) (found : r.Found) (held : r.get? f.id = some f) :
    (r.add e).1.Stands f ↔ r.Contested e ∨ (f.id = e.id → f = e) := by
  have stands := Catalog.stands indexed found held
  by_cases contested : r.Contested e
  · obtain ⟨i, _, refused⟩ := add_contested indexed found contested
    simp [refused, contested, stands]
  · rw [or_iff_right contested]
    constructor
    · intro standing same
      exact (add_displaces indexed found contested (same ▸ held)).eq_of_stands standing
    · intro apart
      rw [add_uncontested indexed found contested]
      refine stands.restore indexed.filed apart fun i has wanted => ?_
      exact contested ⟨f, indexed.filed.mem_toList.mpr held, i, has, wanted⟩

/-- An addition to a coherent registry, whether or not it succeeds, leaves all entries standing
exactly if it is refused for its unique id, or no other entry is registered under its id. The
entries of other ids stand in any case. -/
theorem add_harmless_iff (indexed : r.Indexed) (found : r.Found) (e : Entry) :
    ((∀ f ∈ r.toList, (r.add e).1.Stands f) ↔
      r.Contested e ∨ ∀ f ∈ r.toList, f.id = e.id → f = e) ∧
    ∀ f ∈ r.toList, f.id ≠ e.id → (r.add e).1.Stands f := by
  have each : ∀ f ∈ r.toList,
      ((r.add e).1.Stands f ↔ r.Contested e ∨ (f.id = e.id → f = e)) := fun f member =>
    add_stands_iff indexed found (indexed.filed.mem_toList.mp member)
  constructor
  · rw [forall₂_congr each]
    constructor
    · intro standing
      by_cases contested : r.Contested e
      · exact .inl contested
      · exact .inr fun f member => (standing f member).resolve_left contested
    · rintro (contested | apart) f member
      · exact .inl contested
      · exact .inr (apart f member)
  · intro f member apart
    exact (each f member).mpr (.inr fun same => absurd same apart)

/-- The first lamp is registered, and no other one. -/
def lit : Registry := { toCatalog := Catalog.restore {} lampA }

theorem lit_indexed : lit.Indexed := Catalog.indexed_empty.restore (by simp [Catalog.get?])

theorem lit_found : lit.Found :=
  Catalog.found_empty.restore fun id f i held => by simp [Catalog.get?] at held

theorem mem_lit : f ∈ lit.toList ↔ f = lampA := by
  have got : ∀ id, lit.get? id = if lampA.id = id then some lampA else none :=
    Catalog.get?_restore {} lampA
  rw [lit_indexed.filed.mem_toList, got]
  constructor
  · intro held
    split at held
    · exact (Option.some.inj held).symm
    · cases held
  · rintro rfl
    simp

theorem lit_stands :
    lit.Indexed ∧ lit.Found ∧ ∀ f ∈ lit.toList, (lit.add lampB).1.Stands f := by
  refine ⟨lit_indexed, lit_found, (add_harmless_iff lit_indexed lit_found lampB).1.mpr ?_⟩
  refine .inr fun f member same => ?_
  obtain rfl := mem_lit.mp member
  exact absurd same (by decide)

/-- Another lamp under the id of the first, with a unique id that no lamp has. -/
def namesake : Entry := { Entry.new "a" "light" "C" .epoch with uniqueId := some "z" }

theorem namesake_displaces :
    ¬ ∀ (r : Registry) (e : Entry), r.Indexed → r.Found →
      ∀ f ∈ r.toList, (r.add e).1.Stands f := by
  intro harmless
  have stands := harmless lit namesake lit_indexed lit_found lampA (mem_lit.mpr rfl)
  have uncontested : ¬ lit.Contested namesake := by
    rintro ⟨g, member, i, has, wanted⟩
    obtain rfl := mem_lit.mp member
    exact absurd (has.trans wanted.symm) (by decide)
  have displaced : (lit.add namesake).1.Displaced lampA namesake :=
    add_displaces lit_indexed lit_found uncontested rfl
  have same : lampA = namesake := displaced.eq_of_stands stands
  exact absurd (congrArg Entry.title same) (by decide)

end Registry

end Onboarding
