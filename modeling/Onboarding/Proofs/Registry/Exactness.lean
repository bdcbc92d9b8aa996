import Onboarding.Proofs.Registry.Uniqueness

/-! Look-ups over whole courses of events. As long as entries are added under fresh ids and no
update takes the unique id of another entry, every look-up answers exactly what is registered,
whether or not the file could be written and whatever the integrations answered. -/
namespace Onboarding

namespace Catalog

/-- The look-ups by id, by domain and by unique id agree with the registered entries. -/
structure Exact (c : Catalog) : Prop where
  filed : ∀ id e, c.get? id = some e → e.id = id
  counted : c.size = c.toList.length
  apart : c.toList.Pairwise (·.id ≠ ·.id)
  ofDomain : ∀ domain e, e ∈ c.ofDomain domain ↔ e ∈ c.toList ∧ e.domain = domain
  once : ∀ domain, (c.ofDomain domain).Pairwise (·.id ≠ ·.id)
  holder : ∀ domain uniqueId e, c.holder? ⟨domain, uniqueId⟩ = some e ↔
    e ∈ c.toList ∧ e.domain = domain ∧ e.uniqueId = some uniqueId
  /-- No row of the unique ids is stale, and none is missing. -/
  rows : ∀ i id, c.byUniqueId[i]? = some id ↔ ∃ e, c.get? id = some e ∧ e.identity? = some i

theorem identity?_iff {e : Entry} {domain uniqueId : String} :
    e.identity? = some ⟨domain, uniqueId⟩ ↔ e.domain = domain ∧ e.uniqueId = some uniqueId := by
  cases unique : e.uniqueId <;> simp [Entry.identity?, unique]

theorem exact {c : Catalog} (indexed : c.Indexed) (found : c.Found) : c.Exact where
  filed := indexed.filed
  counted := by simp [size, toList]
  apart := indexed.filed.pairwise_toList
  ofDomain domain e := by rw [indexed.mem_ofDomain, indexed.filed.mem_toList]
  once := indexed.filed.pairwise_ofDomain
  holder domain uniqueId e := by
    rw [holder?_iff indexed found, indexed.filed.mem_toList, identity?_iff]
  rows i id := ⟨indexed.sound i id, fun ⟨e, held, has⟩ => found id e i held has⟩

end Catalog

namespace Registry

theorem upkeep_exact :
    Upkeep (fun c => c.Indexed ∧ c.Found) Disk.Distinct fun r c => Fresh r c ∧ Spares r c where
  step := by
    rintro r m c ⟨indexed, found⟩ ⟨fresh, spares⟩ step
    refine ⟨step.indexed indexed ?_, (upkeep_unique.step ⟨indexed.filed, found⟩ spares step).2⟩
    rintro e rfl
    exact fresh
  phase := by
    rintro c id old e target reason ⟨indexed, found⟩ held led
    obtain ⟨here, domain, same, _⟩ := Entry.enter_same led
    obtain rfl := indexed.filed id old held
    exact ⟨indexed.revise (here ▸ held) domain same, found.revise (here ▸ held) same⟩
  save := by
    rintro d c ⟨indexed, found⟩ distinct
    exact upkeep_unique.save ⟨indexed.filed, found⟩ distinct
  storage := fun distinct => distinct
  load := by
    intro d now entries distinct loads
    have apart := distinct now entries loads
    have ids : entries.Pairwise (·.id ≠ ·.id) := apart.imp fun h => h.1
    exact ⟨Catalog.indexed_empty.restoreAll ids fun e _ => by simp [Catalog.get?],
      (upkeep_unique.load distinct loads).2⟩
  empty := ⟨Catalog.indexed_empty, Catalog.found_empty⟩

/-- On every course from a disk whose entries are apart from each other, if entries are added
under fresh ids and updates spare the unique ids of other entries, the look-ups are exact at every
moment. -/
theorem exact_always {disk : Disk} {handled : Std.ExtTreeSet String} {events : List Event}
    (distinct : disk.Distinct)
    (allowed : (Course.opened disk handled).Throughout (fun r c => Fresh r c ∧ Spares r c) events) :
    ∀ r ∈ ((Course.opened disk handled).after events).seen, r.Exact := by
  intro r seen
  obtain ⟨⟨indexed, found⟩, _⟩ := upkeep_exact.opened distinct allowed r seen
  exact Catalog.exact indexed found

/-- A disk on which an earlier registry has left the first lamp. -/
def stored : Disk := { file := some (Disk.holding [lampA]) }

theorem load_stored (now : Instant) : stored.load now = .ok [lampA.persisted] :=
  Disk.load_readsBack rfl (List.forall_mem_singleton.mpr lampA_readsBack) now

/-- The first lamp is read from the file; the second is added although the file cannot be written,
and is given another unique id. -/
def outage : List Event :=
  [.restart .epoch, .change (.storage false), .change (.mutate (.add lampB)),
    .change (.mutate (.update "b" { uniqueId := some (some "z") } .epoch)), .errand (.setUp "a")]

theorem exact_outage : ((Course.opened stored ∅).after outage).state.Exact := by
  have distinct : stored.Distinct := by
    intro now entries loads
    rw [load_stored] at loads
    cases loads
    exact List.pairwise_singleton _ _
  have reloaded : (onDisk stored ∅).restarted .epoch =
      { onDisk stored ∅ with toCatalog := Catalog.restoreAll {} [lampA.persisted] } :=
    restarted_ok (load_stored .epoch)
  have allowed :
      (Course.opened stored ∅).Throughout (fun r c => Fresh r c ∧ Spares r c) outage := by
    simp only [outage, Course.Throughout, Course.happen, Course.opened, Floor.put, reloaded]
    refine ⟨?_, ?_, ?_, ?_, ?_, trivial⟩ <;> rintro c ⟨⟩
    · exact ⟨trivial, trivial⟩
    · exact ⟨rfl, trivial⟩
    · refine ⟨trivial, fun old uniqueId _ given other e held has => ?_⟩
      have registered : (Catalog.restoreAll {} [lampA.persisted, lampB]).get? other = some e := held
      cases given
      have has := (Catalog.identity?_iff.mp has).2
      rw [Catalog.get?_restoreAll (by decide)] at registered
      rcases registered with ⟨member, _⟩ | ⟨_, absent⟩
      · simp only [List.mem_cons, List.not_mem_nil, or_false] at member
        rcases member with rfl | rfl <;> exact absurd has (by decide)
      · simp [Catalog.get?] at absent
  exact exact_always distinct allowed _ (List.mem_cons_self ..)

end Registry

end Onboarding
