import Onboarding.Proofs.Registry.Operations

/-! Registries made from a file. A fresh registry files the entries of the file in their order; if
they are apart from each other its indexes are exact, whatever wrote the file. A file that a
registry wrote holds entries as far apart as those of the registry. -/
namespace Onboarding

/-- Entries with different ids and, where they have them, different unique ids. -/
def Entry.Apart (e f : Entry) : Prop :=
  e.id ≠ f.id ∧ ∀ i, e.identity? = some i → f.identity? ≠ some i

namespace Catalog

variable {c : Catalog} {entries : List Entry}

def restoreAll (c : Catalog) (entries : List Entry) : Catalog := entries.foldl restore c

@[simp] theorem restoreAll_nil : c.restoreAll [] = c := rfl

@[simp] theorem restoreAll_cons (e : Entry) :
    c.restoreAll (e :: entries) = (c.restore e).restoreAll entries := rfl

theorem get?_restoreAll (distinct : entries.Pairwise (·.id ≠ ·.id)) {id : String} {e : Entry} :
    (c.restoreAll entries).get? id = some e ↔
      e ∈ entries ∧ e.id = id ∨ (∀ f ∈ entries, f.id ≠ id) ∧ c.get? id = some e := by
  induction entries generalizing c with
  | nil => simp
  | cons first entries ih =>
    obtain ⟨apart, distinct⟩ := List.pairwise_cons.mp distinct
    rw [restoreAll_cons, ih distinct, get?_restore]
    by_cases here : first.id = id
    · have others : ∀ f ∈ entries, f.id ≠ id := fun f member same =>
        apart f member (here.trans same.symm)
      constructor
      · rintro (⟨member, same⟩ | ⟨_, taken⟩)
        · exact absurd same (others e member)
        · rw [if_pos here] at taken
          cases taken
          exact .inl ⟨by simp, here⟩
      · rintro (⟨member, same⟩ | ⟨absent, _⟩)
        · rcases List.mem_cons.mp member with rfl | later
          · exact .inr ⟨others, if_pos here⟩
          · exact absurd same (others e later)
        · exact absurd here (absent first (by simp))
    · have notFirst : ¬(e = first ∧ e.id = id) := fun ⟨same, is⟩ => here (same ▸ is)
      rw [List.forall_mem_cons, List.mem_cons, if_neg here, or_and_right]
      simp only [notFirst, here, false_or, ne_eq, not_false_eq_true, true_and]

theorem Filed.restoreAll (filed : c.Filed) : (c.restoreAll entries).Filed := by
  induction entries generalizing c with
  | nil => exact filed
  | cons e entries ih => exact ih (filed.restore e)

theorem Indexed.restoreAll (indexed : c.Indexed) (distinct : entries.Pairwise (·.id ≠ ·.id))
    (fresh : ∀ e ∈ entries, c.get? e.id = none) : (c.restoreAll entries).Indexed := by
  induction entries generalizing c with
  | nil => exact indexed
  | cons e entries ih =>
    obtain ⟨apart, distinct⟩ := List.pairwise_cons.mp distinct
    refine ih (indexed.restore (fresh e (by simp))) distinct fun f member => ?_
    rw [get?_restore, if_neg (apart f member)]
    exact fresh f (by simp [member])

theorem Found.restoreAll (found : c.Found) (apart : entries.Pairwise Entry.Apart)
    (new : ∀ e ∈ entries, ∀ id f i, c.get? id = some f → e.identity? = some i →
      f.identity? ≠ some i) : (c.restoreAll entries).Found := by
  induction entries generalizing c with
  | nil => exact found
  | cons e entries ih =>
    obtain ⟨first, apart⟩ := List.pairwise_cons.mp apart
    have foundAfter : (c.restore e).Found :=
      found.restore fun id f i held has same => absurd same (new e (by simp) id f i held has)
    refine ih foundAfter apart fun g member id f i held has => ?_
    rw [get?_restore] at held
    split at held
    · cases held
      exact fun same => (first g member).2 i same has
    · exact new g (by simp [member]) id f i held has

theorem pairwise_apart (filed : c.Filed) (unique : c.Unique) :
    c.toList.Pairwise Entry.Apart := by
  refine filed.pairwise_toList.imp_of_mem fun {e f} first second apart => ⟨apart, ?_⟩
  intro i has same
  exact apart (unique e.id f.id e f i (filed.mem_toList.mp first) (filed.mem_toList.mp second)
    has same)

/-- What a fresh catalog makes of the entries of another one, as they are kept. -/
def reloaded (c : Catalog) : Catalog := restoreAll {} (c.toList.map Entry.persisted)

theorem get?_reloaded (filed : c.Filed) (id : String) :
    c.reloaded.get? id = (c.get? id).map Entry.persisted := by
  have distinct : (c.toList.map Entry.persisted).Pairwise (·.id ≠ ·.id) := by
    rw [List.pairwise_map]
    exact filed.pairwise_toList
  ext e
  rw [reloaded, get?_restoreAll distinct]
  simp only [List.mem_map, filed.mem_toList, Option.map_eq_some_iff]
  constructor
  · rintro (⟨⟨f, held, rfl⟩, here⟩ | ⟨_, absent⟩)
    · exact ⟨f, here ▸ held, rfl⟩
    · simp [get?] at absent
  · rintro ⟨f, held, rfl⟩
    obtain rfl := filed id f held
    exact .inl ⟨⟨f, held, rfl⟩, rfl⟩

theorem toList_reloaded (filed : c.Filed) :
    c.reloaded.toList = c.toList.map Entry.persisted := by
  have same : c.reloaded.toList.map id = c.toList.map Entry.persisted := by
    refine toList_map_eq fun id => ?_
    rw [Option.map_id_fun, id_eq, get?_reloaded filed]
  rwa [List.map_id] at same

theorem indexed_reloaded (filed : c.Filed) : c.reloaded.Indexed := by
  refine indexed_empty.restoreAll ?_ fun e _ => by simp [get?]
  rw [List.pairwise_map]
  exact filed.pairwise_toList

theorem found_reloaded (filed : c.Filed) (unique : c.Unique) : c.reloaded.Found := by
  refine found_empty.restoreAll ?_ fun e _ id f i held => by simp [get?] at held
  rw [List.pairwise_map]
  exact pairwise_apart filed unique

theorem idsOf_reloaded (indexed : c.Indexed) (domain : String) :
    c.reloaded.idsOf domain = c.idsOf domain := by
  ext id
  rw [(indexed_reloaded indexed.filed).listed, indexed.listed, get?_reloaded indexed.filed]
  constructor
  · rintro ⟨e, held, here⟩
    obtain ⟨f, before, rfl⟩ := Option.map_eq_some_iff.mp held
    exact ⟨f, before, here⟩
  · rintro ⟨f, held, here⟩
    exact ⟨f.persisted, by simp [held], here⟩

theorem ofDomain_reloaded (indexed : c.Indexed) (domain : String) :
    c.reloaded.ofDomain domain = (c.ofDomain domain).map Entry.persisted := by
  rw [ofDomain, ofDomain, idsOf_reloaded indexed, List.map_filterMap]
  congr 1
  funext id
  rw [get?_reloaded indexed.filed]

/-- Look-ups by unique id outlast a reload exactly if every entry was found under its own. -/
theorem holder?_reloaded (indexed : c.Indexed) (unique : c.Unique) :
    (∀ i, c.reloaded.holder? i = (c.holder? i).map Entry.persisted) ↔ c.Found := by
  have again := indexed_reloaded indexed.filed
  have foundAgain := found_reloaded indexed.filed unique
  constructor
  · intro alike id e i held has
    obtain rfl := indexed.filed id e held
    have heldAgain : c.reloaded.get? e.id = some e.persisted := by
      rw [get?_reloaded indexed.filed, held, Option.map_some]
    have answer := foundAgain.holder? (e := e.persisted) heldAgain has
    obtain ⟨f, holds, same⟩ := Option.map_eq_some_iff.mp ((alike i).symm.trans answer)
    obtain ⟨id, row, heldRow⟩ := Option.bind_eq_some_iff.mp holds
    have sameId : f.persisted.id = e.persisted.id := congrArg Entry.id same
    rw [row, ← indexed.filed id f heldRow]
    exact congrArg some sameId
  · intro found i
    ext e
    rw [holder?_iff again foundAgain, get?_reloaded indexed.filed,
      Option.map_eq_some_iff, Option.map_eq_some_iff]
    constructor
    · rintro ⟨⟨f, held, rfl⟩, has⟩
      exact ⟨f, found.holder? held has, rfl⟩
    · rintro ⟨f, holds, rfl⟩
      obtain ⟨held, has⟩ := indexed.holder?_sound holds
      exact ⟨⟨f, held, rfl⟩, has⟩

end Catalog

namespace Disk

/-- Whatever can be read of the file, its entries are apart from each other. -/
def Distinct (d : Disk) : Prop :=
  ∀ now entries, d.load now = .ok entries → entries.Pairwise Entry.Apart

theorem keys_reread {room : Nat} {entries back : List Entry}
    (read : entries.mapM (Entry.reread room) = some back) :
    back.map (fun e => (e.id, e.identity?)) = entries.map (fun e => (e.id, e.identity?)) := by
  induction entries generalizing back with
  | nil =>
    cases read
    rfl
  | cons e entries ih =>
    simp only [List.mapM_cons, Option.bind_eq_bind, Option.bind_eq_some_iff] at read
    obtain ⟨first, readFirst, others, readOthers, made⟩ := read
    cases made
    obtain ⟨id, domain, uniqueId⟩ := Entry.reread_same readFirst
    have same : first.identity? = e.identity? := by simp [Entry.identity?, domain, uniqueId]
    simp only [List.map_cons, ih readOthers, id, same]

theorem apart_reread {room : Nat} {entries back : List Entry}
    (read : entries.mapM (Entry.reread room) = some back) (apart : entries.Pairwise Entry.Apart) :
    back.Pairwise Entry.Apart := by
  have keys (entries : List Entry) : entries.Pairwise Entry.Apart ↔
      (entries.map fun e => (e.id, e.identity?)).Pairwise fun p q =>
        p.1 ≠ q.1 ∧ ∀ i, p.2 = some i → q.2 ≠ some i := by
    rw [List.pairwise_map]
    rfl
  rw [keys, keys_reread read, ← keys]
  exact apart

theorem distinct_holding {d : Disk} {c : Catalog} (filed : c.Filed) (unique : c.Unique)
    (file : d.file = some (holding c.toList)) : d.Distinct := by
  intro now entries loads
  rw [load_holding file] at loads
  split at loads
  · rename_i read
    cases loads
    exact apart_reread read (Catalog.pairwise_apart filed unique)
  · cases loads

theorem distinct_none {d : Disk} (file : d.file = none) : d.Distinct := by
  intro now entries loads
  rw [load, file] at loads
  cases loads
  exact .nil

end Disk

namespace Registry

theorem load_written {s : Registry} (file : s.disk.file = some (Disk.holding s.toList))
    (back : ∀ e ∈ s.toList, e.ReadsBack Disk.room) (now : Instant) :
    (onDisk s.disk s.handled).load now =
      ({ onDisk s.disk s.handled with
          toCatalog := s.reloaded }, .ok ()) := by
  rw [load, onDisk, Disk.load_readsBack file back]
  rfl

end Registry

end Onboarding
