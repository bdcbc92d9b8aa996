import Onboarding.Proofs.Entry.Settings
import Onboarding.Proofs.Registry.Addition
import Onboarding.Proofs.Registry.Renewal

/-! What an update does to a coherent registry whose storage works. It answers whether the entry
changed, and only then writes the file; the other entries stay as they are. The look-up by unique id
goes along with the entry, provided that no other entry has its new unique id. -/
namespace Onboarding

/-- Where one entry was there is another one, and it alone is found under its unique id. What led to
the first one leads to nothing, unless the unique id is still the same. -/
structure Catalog.Relabels (c d : Catalog) (old new : Entry) : Prop where
  leads : ∀ i, new.identity? = some i → d.holder? i = some new
  frees : ∀ i, old.identity? = some i → (d.holder? i = none ↔ old.identity? ≠ new.identity?)
  others : ∀ i, old.identity? ≠ some i → new.identity? ≠ some i → d.holder? i = c.holder? i

theorem Catalog.relabels {c d : Catalog} {old new : Entry} (indexed : c.Indexed) (found : c.Found)
    (indexed' : d.Indexed) (found' : d.Found) (held : c.get? new.id = some old)
    (gets : ∀ id, d.get? id = if new.id = id then some new else c.get? id) :
    c.Relabels d old new := by
  have held' : d.get? new.id = some new := by rw [gets, if_pos rfl]
  have elsewhere {f : Entry} (other : new.id ≠ f.id) : d.get? f.id = c.get? f.id := by
    rw [gets, if_neg other]
  constructor
  · exact fun i has => found'.holder? held' has
  · intro i has
    constructor
    · intro unheld same
      cases unheld.symm.trans (found'.holder? held' (same ▸ has))
    · intro moved
      rw [Option.eq_none_iff_forall_ne_some]
      intro f answer
      obtain ⟨there, has'⟩ := indexed'.holder?_sound answer
      by_cases here : new.id = f.id
      · rw [← here, held'] at there
        cases there
        exact moved (has.trans has'.symm)
      · rw [elsewhere here] at there
        exact here (found.unique new.id f.id old f i held there has has')
  · intro i left kept
    ext f
    rw [holder?_iff indexed' found', holder?_iff indexed found]
    by_cases here : new.id = f.id
    · rw [← here, held', held]
      constructor
      · rintro ⟨⟨⟩, has⟩
        exact absurd has kept
      · rintro ⟨⟨⟩, has⟩
        exact absurd has left
    · rw [elsewhere here]

namespace Registry

variable {r : Registry} {id : String} {u : Entry.Update} {now : Instant} {old : Entry}

/-- What becomes of a registry by the update of an entry that it holds. -/
structure Updates (r : Registry) (id : String) (u : Entry.Update) (now : Instant) (old : Entry) :
    Prop where
  answer : (r.update id u now).2 = .ok (old.apply u now).2
  entry : (r.update id u now).1.get? id = some (old.apply u now).1
  others : ∀ other, other ≠ id → (r.update id u now).1.get? other = r.get? other
  unwritten : (old.apply u now).2 = false → (r.update id u now).1 = r
  written : (old.apply u now).2 = true → (r.update id u now).1.disk =
    { r.disk with file := some (Disk.holding (r.update id u now).1.toList) }
  /-- As long as no other entry has the new unique id. -/
  relabels : r.Spares (.mutate (.update id u now)) →
    ((r.update id u now).1.Indexed ∧ (r.update id u now).1.Found) ∧
      r.Relabels (r.update id u now).1.toCatalog old (old.apply u now).1

theorem updates_relabels (indexed : r.Indexed) (found : r.Found) (held : r.get? id = some old)
    (spares : r.Spares (.mutate (.update id u now))) :
    ((r.update id u now).1.Indexed ∧ (r.update id u now).1.Found) ∧
      r.Relabels (r.update id u now).1.toCatalog old (old.apply u now).1 := by
  have named : (old.apply u now).1.id = id := by
    rw [← indexed.filed id old held, (old.settles u).rest now]
  have coherent : (r.update id u now).1.Indexed ∧ (r.update id u now).1.Found := by
    rcases Change.catalog r (.mutate (.update id u now)) with same | ⟨_, ⟨⟩, step⟩
    · change (r.update id u now).1.toCatalog = r.toCatalog at same
      rw [same]
      exact ⟨indexed, found⟩
    · exact ⟨step.indexed indexed (by rintro e ⟨⟩),
        (upkeep_unique.step ⟨indexed.filed, found⟩ spares step).2⟩
  refine ⟨coherent, Catalog.relabels indexed found coherent.1 coherent.2 (named ▸ held) ?_⟩
  intro other
  rw [get?_update indexed.filed, held, named]
  rfl

/-- Where the storage works, an update writes what it has changed. -/
theorem update_writable (writable : r.disk.writable = true) (held : r.get? id = some old)
    (u : Entry.Update) (now : Instant) :
    r.update id u now = if (old.apply u now).2 then
      (r.written (r.amend id old (old.apply u now).1), .ok true) else (r, .ok false) := by
  cases changes : (old.apply u now).2 with
  | false => exact r.update_unchanged held (Prod.ext rfl changes)
  | true =>
    rw [r.update_changed held (Prod.ext rfl changes), saved_written r writable]
    rfl

theorem updates (writable : r.disk.writable = true) (indexed : r.Indexed) (found : r.Found)
    (held : r.get? id = some old) : r.Updates id u now old := by
  have outcome := update_writable writable held u now
  have gets := get?_update indexed.filed id u now
  constructor
  · rw [outcome]
    cases (old.apply u now).2 <;> rfl
  · rw [gets, if_pos rfl, held]
    rfl
  · intro other apart
    rw [gets, if_neg apart.symm]
  · intro same
    rw [outcome, same]
    rfl
  · intro changed
    rw [outcome, changed]
    rfl
  · exact updates_relabels indexed found held

/-- An update lays what it gives over the settings of an entry and leaves all else alone but the
time of a change, twice is no more than once, and two are as good as one laid over the other.
A coherent registry whose storage works refuses to update what it does not hold, and otherwise has
the entry updated, and that alone. -/
theorem updates_settle (r : Registry) (writable : r.disk.writable = true) (indexed : r.Indexed)
    (found : r.Found) (id : String) (u : Entry.Update) (now : Instant) :
    (∀ e : Entry, e.Settles u) ∧
    (r.get? id = none → r.update id u now = (r, .error (.notFound id))) ∧
    ∀ old, r.get? id = some old → r.Updates id u now old :=
  ⟨fun e => e.settles u, r.update_absent, fun _ held => updates writable indexed found held⟩

/-- The first lamp loses its unique id, and keeps what else it has. -/
theorem lit_unlabelled :
    let u : Entry.Update := { title := some "A", uniqueId := some none }
    (lit.disk.writable = true ∧ lit.Indexed ∧ lit.Found ∧ lit.get? "a" = some lampA) ∧
    lit.Spares (.mutate (.update "a" u .epoch)) ∧
    (lit.update "a" u .epoch).2 = .ok true ∧
    (lit.update "a" u .epoch).1.holder? ⟨"light", "x"⟩ = none := by
  intro u
  have held : lit.get? "a" = some lampA := rfl
  have spares : lit.Spares (.mutate (.update "a" u .epoch)) := by
    rintro old uniqueId _ ⟨⟩
  obtain ⟨_, _, renews⟩ := updates_settle lit rfl lit_indexed lit_found "a" u .epoch
  have renewed := renews lampA held
  refine ⟨⟨rfl, lit_indexed, lit_found, held⟩, spares, renewed.answer, ?_⟩
  exact ((renewed.relabels spares).2.frees ⟨"light", "x"⟩ rfl).mpr (by decide)

end Registry

end Onboarding
