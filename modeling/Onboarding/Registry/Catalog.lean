import Onboarding.Entry.Basic
import Std.Data.ExtTreeSet

/-! Entries in memory: the entries by id, the ids of each domain, and for each unique id of a
domain the entry that holds it. -/
namespace Onboarding

/-- A unique id within a domain. -/
structure Identity where
  domain : String
  uniqueId : String
  deriving DecidableEq, Repr

namespace Identity

instance : Ord Identity where
  compare := compareLex (compareOn Identity.domain) (compareOn Identity.uniqueId)

instance : Std.TransOrd Identity :=
  inferInstanceAs (Std.TransCmp (compareLex (compareOn Identity.domain)
    (compareOn Identity.uniqueId)))

instance : Std.LawfulEqOrd Identity where
  eq_of_compare {a b} h := by
    have ⟨hd, hu⟩ : compare a.domain b.domain = .eq ∧ compare a.uniqueId b.uniqueId = .eq := by
      simpa [compare, compareLex, compareOn, Ordering.then_eq_eq] using h
    cases a
    cases b
    simp_all

end Identity

structure Catalog where
  entries : Table String Entry := ∅
  byDomain : Table String (Std.ExtTreeSet String) := ∅
  byUniqueId : Table Identity String := ∅

/-- The unique id of an entry within its domain. -/
def Entry.identity? (e : Entry) : Option Identity := e.uniqueId.map (⟨e.domain, ·⟩)

namespace Catalog

def get? (c : Catalog) (id : String) : Option Entry := c.entries[id]?

/-- All entries in the order of their ids. -/
def toList (c : Catalog) : List Entry := c.entries.toList.map (·.2)

def size (c : Catalog) : Nat := c.entries.size

/-- The ids listed under a domain. -/
def idsOf (c : Catalog) (domain : String) : Std.ExtTreeSet String := c.byDomain.getD domain ∅

/-- The entries listed under a domain. -/
def ofDomain (c : Catalog) (domain : String) : List Entry :=
  (c.idsOf domain).toList.filterMap c.get?

/-- The entry that holds a unique id. -/
def holder? (c : Catalog) (i : Identity) : Option Entry := c.byUniqueId[i]?.bind c.get?

/-- Stores an entry under its id, in place of any before it, and lists it under its domain. -/
def store (c : Catalog) (e : Entry) : Catalog :=
  { c with
    entries := c.entries.insert e.id e
    byDomain := c.byDomain.insert e.domain ((c.idsOf e.domain).insert e.id) }

/-- Gives a unique id to an entry, whoever held it. -/
def assign (c : Catalog) (i : Option Identity) (id : String) : Catalog :=
  match i with
  | none => c
  | some i => { c with byUniqueId := c.byUniqueId.insert i id }

/-- Frees a unique id, whoever holds it. -/
def free (c : Catalog) (i : Option Identity) : Catalog :=
  match i with
  | none => c
  | some i => { c with byUniqueId := c.byUniqueId.erase i }

/-- Takes an entry in as a file lists it. -/
def restore (c : Catalog) (e : Entry) : Catalog := (c.assign e.identity? e.id).store e

/-- Takes an entry out, and with it its listing and its unique id. -/
def discard (c : Catalog) (e : Entry) : Catalog :=
  { c with
    entries := c.entries.erase e.id
    byDomain := c.byDomain.modify e.domain (·.erase e.id) }.free e.identity?

/-- Puts a changed entry in the place of the one of its id. -/
def revise (c : Catalog) (e : Entry) : Catalog := { c with entries := c.entries.insert e.id e }

/-- Moves the entry `id` from one unique id to another. -/
def reassign (c : Catalog) (id : String) (old new : Option Identity) : Catalog :=
  if old = new then c else (c.free old).assign new id

/-! What each of them does to the look-up by id. -/

variable (c : Catalog) (e : Entry)

@[simp] theorem get?_store (id : String) :
    (c.store e).get? id = if e.id = id then some e else c.get? id := by
  simp [store, get?, Std.ExtTreeMap.getElem?_insert]

@[simp] theorem get?_assign (i : Option Identity) (holder id : String) :
    (c.assign i holder).get? id = c.get? id := by
  cases i <;> rfl

@[simp] theorem get?_free (i : Option Identity) (id : String) :
    (c.free i).get? id = c.get? id := by
  cases i <;> rfl

@[simp] theorem get?_restore (id : String) :
    (c.restore e).get? id = if e.id = id then some e else c.get? id := by
  simp [restore]

@[simp] theorem get?_discard (id : String) :
    (c.discard e).get? id = if e.id = id then none else c.get? id := by
  cases h : e.identity? <;> simp [discard, free, h, get?, Std.ExtTreeMap.getElem?_erase]

@[simp] theorem get?_revise (id : String) :
    (c.revise e).get? id = if e.id = id then some e else c.get? id := by
  simp [revise, get?, Std.ExtTreeMap.getElem?_insert]

@[simp] theorem get?_reassign (holder : String) (old new : Option Identity) (id : String) :
    (c.reassign holder old new).get? id = c.get? id := by
  unfold reassign
  split <;> simp

theorem mem_toList {c : Catalog} {e : Entry} : e ∈ c.toList ↔ ∃ id, c.get? id = some e := by
  simp [toList, get?, Std.ExtTreeMap.mem_toList_iff_getElem?_eq_some]

end Catalog

end Onboarding
