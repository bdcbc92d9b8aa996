import Onboarding.Proofs.Registry.Edits
import Onboarding.Proofs.Registry.Updating

/-! Calls that change what is registered, in either order. Where the storage works, two calls about
different entries that touch no unique id in common are answered alike in either order and leave the
same registry, if each reads the same time both times; if they do not, the registries differ in the
times of last changes and in nothing else. -/
namespace Onboarding

open Catalog (Edit)

/-! Without the times of last changes. -/

/-- The entry without the time of its last change. -/
def Entry.untimed (e : Entry) : Entry := { e with modifiedAt := .epoch }

theorem Entry.untimed_apply (e : Entry) (u : Entry.Update) (now : Instant) :
    (e.apply u now).1.untimed = (e.untimed.apply u .epoch).1 ∧
      (e.apply u now).2 = (e.untimed.apply u .epoch).2 := by
  have same : u.changes e.untimed = u.changes e := rfl
  unfold apply
  rw [same]
  split <;> exact ⟨rfl, rfl⟩

namespace Catalog

variable (c : Catalog)

def untimed : Catalog := { c with entries := c.entries.map fun _ => Entry.untimed }

@[simp] theorem get?_untimed (id : String) : c.untimed.get? id = (c.get? id).map Entry.untimed :=
  Std.ExtTreeMap.getElem?_map

@[simp] theorem toList_untimed : c.untimed.toList = c.toList.map Entry.untimed := by
  simp only [toList, untimed, Std.ExtTreeMap.toList_map, List.map_map]
  rfl

@[simp] theorem ofDomain_untimed (domain : String) :
    c.untimed.ofDomain domain = (c.ofDomain domain).map Entry.untimed := by
  have same : c.untimed.get? = fun id => (c.get? id).map Entry.untimed := funext c.get?_untimed
  rw [ofDomain, ofDomain, same, List.map_filterMap]
  rfl

@[simp] theorem holder?_untimed (i : Identity) :
    c.untimed.holder? i = (c.holder? i).map Entry.untimed := by
  unfold holder?
  change c.byUniqueId[i]?.bind c.untimed.get? = _
  cases c.byUniqueId[i]? with
  | none => rfl
  | some id => exact c.get?_untimed id

def Edit.untimed : Edit → Edit
  | restore e => .restore e.untimed
  | amend id old e => .amend id old.untimed e.untimed
  | discard e => .discard e.untimed

theorem Edit.untimed_apply (a : Edit) : (a.apply c).untimed = a.untimed.apply c.untimed := by
  apply ext_rows
  · intro id
    rw [get?_untimed, get?_apply, get?_apply, get?_untimed]
    cases a <;> exact apply_ite (Option.map Entry.untimed) ..
  · intro domain
    change (a.apply c).byDomain[domain]? = _
    rw [listing_apply, listing_apply]
    cases a <;> rfl
  · intro i
    change (a.apply c).byUniqueId[i]? = _
    rw [row_apply, row_apply]
    cases a <;> rfl

end Catalog

namespace Registry

namespace Mutation

def untimed : Mutation → Mutation
  | add e => add e.untimed
  | update id u _ => update id u .epoch
  | remove id => remove id

/-- The same call at another time. -/
def timed (m : Mutation) (now : Instant) : Mutation :=
  match m with
  | update id u _ => update id u now
  | m => m

variable (m : Mutation)

theorem untimed_timed (now : Instant) : (m.timed now).untimed = m.untimed := by
  cases m <;> rfl

theorem target_timed (now : Instant) : (m.timed now).target = m.target := by
  cases m <;> rfl

theorem edit?_untimed (c : Catalog) :
    m.untimed.edit? c.untimed = (m.edit? c).map fun a => a.map Edit.untimed := by
  cases m with
  | add e =>
    have same : e.untimed.identity? = e.identity? := rfl
    simp only [untimed, edit?, same]
    split
    · rfl
    · change (if _ ∈ c.byUniqueId then _ else _) = _
      split <;> rfl
  | update id u now =>
    cases held : c.get? id with
    | none =>
      simp only [untimed, edit?, Catalog.get?_untimed, held]
      rfl
    | some old =>
      obtain ⟨entry, changes⟩ := old.untimed_apply u now
      rcases applied : old.apply u now with ⟨e, changed⟩
      rw [applied] at entry changes
      have applied' : old.untimed.apply u .epoch = (e.untimed, changed) :=
        Prod.ext entry.symm changes.symm
      cases changed <;>
        simp only [untimed, edit?, Catalog.get?_untimed, held, Option.map_some, applied,
          applied'] <;> rfl
  | remove id =>
    simp only [untimed, edit?, Catalog.get?_untimed]
    cases c.get? id <;> rfl

/-- What the call answers: the entry that it has added or taken out, or whether anything changed.
-/
def answer (r : Registry) : Mutation → Except RegistryError (Entry ⊕ Bool)
  | add e => (r.add e).2.map .inl
  | update id u now => (r.update id u now).2.map .inr
  | remove id => (r.remove id).2.map .inl

/-- What is answered when an edit has been made. -/
def outcome : Edit → Entry ⊕ Bool
  | .restore e => .inl e
  | .amend .. => .inr true
  | .discard e => .inl e

end Mutation

/-- The registry after what a call has decided on. -/
def edited (r : Registry) : Except RegistryError (Option Edit) → Registry
  | .ok (some a) => r.written (a.apply r.toCatalog)
  | _ => r

namespace Mutation

variable {r : Registry} {m n : Mutation}

theorem run_edited (writable : r.disk.writable = true) (m : Mutation) :
    (m.run r).1 = r.edited (m.edit? r.toCatalog) := by
  rw [m.run_eq, plan]
  cases m.edit? r.toCatalog with
  | error e => rfl
  | ok a =>
    cases a with
    | none => rfl
    | some a =>
      change (saved { r with toCatalog := a.apply r.toCatalog } true).1 = _
      rw [saved_written r writable]
      rfl

theorem writable_run (writable : r.disk.writable = true) (m : Mutation) :
    (m.run r).1.disk.writable = true := by
  rw [m.run_edited writable]
  rcases m.edit? r.toCatalog with e | _ | a <;> exact writable

theorem answer_eq (writable : r.disk.writable = true) (m : Mutation) :
    m.answer r = (m.edit? r.toCatalog).map fun a => a.elim (.inr false) outcome := by
  cases m with
  | add e =>
    cases has : e.identity? with
    | none =>
      simp only [answer, edit?, has]
      rw [r.add_free (by simp [has]), saved_written r writable]
      rfl
    | some i =>
      by_cases taken : i ∈ r.byUniqueId
      · simp only [answer, edit?, has, if_pos taken, r.add_taken has taken]
        rfl
      · simp only [answer, edit?, has, if_neg taken]
        rw [r.add_free (by simpa [has] using taken), saved_written r writable]
        rfl
  | update id u now =>
    cases held : r.get? id with
    | none =>
      simp only [answer, edit?, held, r.update_absent held]
      rfl
    | some old =>
      rcases applied : old.apply u now with ⟨e, changed⟩
      simp only [answer, edit?, held, applied, update_writable writable held]
      cases changed <;> rfl
  | remove id =>
    cases held : r.get? id with
    | none =>
      simp only [answer, edit?, held, r.remove_absent held]
      rfl
    | some e =>
      simp only [answer, edit?, held, r.remove_held held, saved_written r writable]
      rfl

/-- What an update answers does not depend on the time. -/
theorem answer_timed (writable : r.disk.writable = true) (m : Mutation) (now : Instant) :
    (m.timed now).answer r = m.answer r := by
  cases m with
  | add e => rfl
  | remove id => rfl
  | update id u earlier =>
    cases held : r.get? id with
    | none => simp only [timed, answer, r.update_absent held]
    | some old =>
      simp only [timed, answer, update_writable writable held, Entry.apply_snd]
      split <;> rfl

/-- A call about another entry that touches no common unique id has no part in what a call decides.
-/
theorem edit?_run (writable : r.disk.writable = true) (filed : r.Filed)
    (apart : m.target ≠ n.target)
    (disjoint : ∀ i, ¬ (m.Touches r.toCatalog i ∧ n.Touches r.toCatalog i)) :
    m.edit? (n.run r).1.toCatalog = m.edit? r.toCatalog := by
  rw [n.run_edited writable]
  rcases decides : n.edit? r.toCatalog with e | _ | a
  · rfl
  · rfl
  · obtain ⟨target, touches⟩ := edit_of filed decides
    refine edit?_apply (c := r.toCatalog) (target ▸ apart.symm) fun i both => ?_
    exact disjoint i ⟨both.1, touches i both.2⟩

/-- Two such calls leave the same registry in either order. -/
theorem run_comm (writable : r.disk.writable = true) (filed : r.Filed) (apart : m.target ≠ n.target)
    (disjoint : ∀ i, ¬ (m.Touches r.toCatalog i ∧ n.Touches r.toCatalog i)) :
    (n.run (m.run r).1).1 = (m.run (n.run r).1).1 := by
  have swapped : ∀ i, ¬ (n.Touches r.toCatalog i ∧ m.Touches r.toCatalog i) :=
    fun i both => disjoint i both.symm
  rw [n.run_edited (m.writable_run writable), edit?_run writable filed apart.symm swapped,
    m.run_edited (n.writable_run writable), edit?_run writable filed apart disjoint,
    m.run_edited writable, n.run_edited writable]
  rcases first : m.edit? r.toCatalog with e | _ | a
  · rfl
  · rfl
  rcases second : n.edit? r.toCatalog with e | _ | b
  · rfl
  · rfl
  obtain ⟨target, touches⟩ := edit_of filed first
  obtain ⟨target', touches'⟩ := edit_of filed second
  have edits : b.apply (a.apply r.toCatalog) = a.apply (b.apply r.toCatalog) := by
    refine Edit.apply_comm (by rw [target, target']; exact apart.symm) (fun i both => ?_) _
    exact disjoint i ⟨touches i both.2, touches' i both.1⟩
  change r.written (b.apply (a.apply r.toCatalog)) = r.written (a.apply (b.apply r.toCatalog))
  rw [edits]

theorem touches_timed {c : Catalog} {i : Identity} {now : Instant} :
    (m.timed now).Touches c i ↔ m.Touches c i := by
  cases m with
  | add e => exact Iff.rfl
  | remove id => exact Iff.rfl
  | update id u earlier => simp only [timed, Touches, Entry.apply_identity?]

end Mutation

/-- Registries that differ in the times of last changes only, and so do their files, unless these
are the same. -/
structure Alike (r s : Registry) : Prop where
  catalog : r.toCatalog.untimed = s.toCatalog.untimed
  file : r.disk.file = s.disk.file ∨ ∃ entries entries',
    r.disk.file = some (Disk.holding entries) ∧ s.disk.file = some (Disk.holding entries') ∧
      entries.map Entry.untimed = entries'.map Entry.untimed

theorem Alike.refl (r : Registry) : r.Alike r := ⟨rfl, .inl rfl⟩

/-- The same call leaves such registries as it found them, whatever time it reads. -/
theorem Alike.run {r s : Registry} {m n : Mutation} (alike : r.Alike s)
    (writable : r.disk.writable = true) (writable' : s.disk.writable = true)
    (same : m.untimed = n.untimed) : (m.run r).1.Alike (n.run s).1 := by
  have decides : (m.edit? r.toCatalog).map (fun a => a.map Edit.untimed) =
      (n.edit? s.toCatalog).map fun a => a.map Edit.untimed := by
    rw [← m.edit?_untimed, ← n.edit?_untimed, same, alike.catalog]
  rw [m.run_edited writable, n.run_edited writable']
  generalize m.edit? r.toCatalog = x, n.edit? s.toCatalog = y at decides ⊢
  rcases x with e | _ | a <;> rcases y with e' | _ | b <;> try cases decides
  · exact alike
  · exact alike
  · have edits : a.untimed = b.untimed := Option.some.inj (Except.ok.inj decides)
    have catalog : (a.apply r.toCatalog).untimed = (b.apply s.toCatalog).untimed := by
      rw [Edit.untimed_apply, Edit.untimed_apply, edits, alike.catalog]
    refine ⟨catalog, .inr ⟨_, _, rfl, rfl, ?_⟩⟩
    rw [← Catalog.toList_untimed, ← Catalog.toList_untimed, catalog]

/-- Every look-up answers the same of both registries, and their files list the same entries, but
for the times of last changes. -/
structure SameButTimes (r s : Registry) : Prop where
  entries : r.toList.map Entry.untimed = s.toList.map Entry.untimed
  get? : ∀ id, (r.get? id).map Entry.untimed = (s.get? id).map Entry.untimed
  ofDomain : ∀ domain,
    (r.ofDomain domain).map Entry.untimed = (s.ofDomain domain).map Entry.untimed
  holder? : ∀ i, (r.holder? i).map Entry.untimed = (s.holder? i).map Entry.untimed
  file : r.disk.file = s.disk.file ∨ ∃ entries entries',
    r.disk.file = some (Disk.holding entries) ∧ s.disk.file = some (Disk.holding entries') ∧
      entries.map Entry.untimed = entries'.map Entry.untimed

theorem Alike.sameButTimes {r s : Registry} (alike : r.Alike s) : r.SameButTimes s where
  entries := by rw [← Catalog.toList_untimed, alike.catalog, Catalog.toList_untimed]
  get? id := by rw [← Catalog.get?_untimed, alike.catalog, Catalog.get?_untimed]
  ofDomain domain := by
    rw [← Catalog.ofDomain_untimed, alike.catalog, Catalog.ofDomain_untimed]
  holder? i := by rw [← Catalog.holder?_untimed, alike.catalog, Catalog.holder?_untimed]
  file := alike.file

/-- Two calls in either order, each at a time of its own. -/
structure Commute (r : Registry) (m n : Mutation) (t₁ t₂ t₃ t₄ : Instant) : Prop where
  first : (m.timed t₁).answer r = (m.timed t₄).answer ((n.timed t₃).run r).1
  second : (n.timed t₂).answer ((m.timed t₁).run r).1 = (n.timed t₃).answer r
  registries : SameButTimes ((n.timed t₂).run ((m.timed t₁).run r).1).1
    ((m.timed t₄).run ((n.timed t₃).run r).1).1
  same : t₁ = t₄ → t₂ = t₃ → ((n.timed t₂).run ((m.timed t₁).run r).1).1 =
    ((m.timed t₄).run ((n.timed t₃).run r).1).1

open Mutation in
/-- In a registry whose storage works and whose entries are stored under their own ids, as those of
a coherent one are, two calls about different entries that touch no unique id in common commute. -/
theorem mutations_commute {r : Registry} {m n : Mutation} (writable : r.disk.writable = true)
    (filed : r.Filed) (apart : m.target ≠ n.target)
    (disjoint : ∀ i, ¬ (m.Touches r.toCatalog i ∧ n.Touches r.toCatalog i))
    (t₁ t₂ t₃ t₄ : Instant) : r.Commute m n t₁ t₂ t₃ t₄ := by
  have apart' (s t : Instant) : (m.timed s).target ≠ (n.timed t).target := by
    rwa [target_timed, target_timed]
  have disjoint' (s t : Instant) (i : Identity) :
      ¬ ((m.timed s).Touches r.toCatalog i ∧ (n.timed t).Touches r.toCatalog i) := by
    rw [touches_timed, touches_timed]
    exact disjoint i
  have swapped (s t : Instant) (i : Identity) :
      ¬ ((n.timed s).Touches r.toCatalog i ∧ (m.timed t).Touches r.toCatalog i) :=
    fun both => disjoint' t s i both.symm
  have commutes (s t : Instant) : ((n.timed t).run ((m.timed s).run r).1).1 =
      ((m.timed s).run ((n.timed t).run r).1).1 :=
    run_comm writable filed (apart' s t) (disjoint' s t)
  constructor
  · rw [answer_eq (writable_run writable _),
      edit?_run writable filed (apart' t₄ t₃) (disjoint' t₄ t₃), ← answer_eq writable,
      answer_timed writable, answer_timed writable]
  · rw [answer_eq (writable_run writable _),
      edit?_run writable filed (apart' t₁ t₂).symm (swapped t₂ t₁), ← answer_eq writable,
      answer_timed writable, answer_timed writable]
  · rw [← commutes t₄ t₃]
    have once := (Alike.refl r).run writable writable
      ((m.untimed_timed t₁).trans (m.untimed_timed t₄).symm)
    exact (once.run (writable_run writable _) (writable_run writable _)
      ((n.untimed_timed t₂).trans (n.untimed_timed t₃).symm)).sameButTimes
  · rintro rfl rfl
    exact commutes t₁ t₂

/-- The first lamp is given another unique id and the second one is added, in either order. -/
theorem lit_commutes :
    let m : Mutation := .update "a" { uniqueId := some (some "z") } .epoch
    let n : Mutation := .add lampB
    (lit.disk.writable = true ∧ lit.Filed ∧ m.target ≠ n.target ∧
      ∀ i, ¬ (m.Touches lit.toCatalog i ∧ n.Touches lit.toCatalog i)) ∧
    ∀ t₁ t₂ t₃ t₄, lit.Commute m n t₁ t₂ t₃ t₄ := by
  intro m n
  have apart : m.target ≠ n.target := by decide
  have disjoint : ∀ i, ¬ (m.Touches lit.toCatalog i ∧ n.Touches lit.toCatalog i) := by
    rintro i ⟨⟨old, held, _, touched⟩, added⟩
    obtain rfl : lampA = old := Option.some.inj held
    have other : (lampA.apply { uniqueId := some (some "z") } .epoch).1.identity? ≠
        lampB.identity? := by decide
    rcases touched with has | has
    · exact absurd (has.trans added.symm) (by decide)
    · exact other (has.trans added.symm)
  exact ⟨⟨rfl, lit_indexed.filed, apart, disjoint⟩,
    mutations_commute rfl lit_indexed.filed apart disjoint⟩

end Registry

end Onboarding
