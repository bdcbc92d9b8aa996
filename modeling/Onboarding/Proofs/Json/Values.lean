import Onboarding.Json.Decoder

/-! Values read back from trees. Whatever is read lists the fields of its objects in the order of
their names, and a value that does is read back from its own tree as it is, by any reader that may go
as deep as it is nested. -/
namespace Onboarding

/-! Fields of an object. -/

namespace Decoder

section
variable {α : Type} {fs : List (String × α)}

/-- The names come in order, each once. -/
def Sorted (fs : List (String × α)) : Prop := fs.Pairwise fun f g => compare f.1 g.1 = .lt

theorem Sorted.nodup (sorted : Sorted fs) : fs.Nodup :=
  sorted.imp fun before same => by
    subst same
    simp at before

theorem sorted_toList (t : Table String α) : Sorted t.toList := Std.ExtTreeMap.ordered_keys_toList

theorem lastWins_eq (fs : List (String × α)) : lastWins fs = Std.ExtTreeMap.ofList fs := by
  have onto (t : Table String α) :
      fs.foldl (fun t f => t.insert f.1 f.2) t = t.insertMany fs := by
    induction fs generalizing t with
    | nil => rfl
    | cons f fs ih => rw [List.foldl_cons, ih, Std.ExtTreeMap.insertMany_cons]
  exact (onto ∅).trans Std.ExtTreeMap.ofList_eq_insertMany_empty.symm

theorem mem_or_of_foldl {t : Table String α} {name : String} {x : α}
    (found : (fs.foldl (fun t f => t.insert f.1 f.2) t)[name]? = some x) :
    (name, x) ∈ fs ∨ t[name]? = some x := by
  induction fs generalizing t with
  | nil => exact .inr found
  | cons f fs ih =>
    rcases ih found with later | found
    · exact .inl (List.mem_cons_of_mem _ later)
    · rw [Std.ExtTreeMap.getElem?_insert] at found
      split at found
      · rename_i same
        have here : f = (name, x) :=
          Prod.ext (Std.LawfulEqCmp.eq_of_compare same) (Option.some.inj found)
        exact .inl (here ▸ List.mem_cons_self)
      · exact .inr found

theorem mem_of_lastWins {f : String × α} (member : f ∈ (lastWins fs).toList) : f ∈ fs := by
  obtain ⟨name, x⟩ := f
  have found := Std.ExtTreeMap.mem_toList_iff_getElem?_eq_some.mp member
  rcases mem_or_of_foldl found with here | before
  · exact here
  · rw [Std.ExtTreeMap.getElem?_empty] at before
    cases before

theorem mem_lastWins (sorted : Sorted fs) (f : String × α) :
    f ∈ (lastWins fs).toList ↔ f ∈ fs := by
  have apart : fs.Pairwise fun f g => ¬ compare f.1 g.1 = .eq :=
    sorted.imp fun before same => by cases before.symm.trans same
  refine ⟨mem_of_lastWins, fun member => ?_⟩
  rw [lastWins_eq]
  exact Std.ExtTreeMap.mem_toList_iff_getElem?_eq_some.mpr
    (Std.ExtTreeMap.getElem?_ofList_of_mem Std.ReflCmp.compare_self apart member)

/-- Fields in the order of their names are listed as they are. -/
theorem toList_lastWins (sorted : Sorted fs) : (lastWins fs).toList = fs := by
  have alike : (lastWins fs).toList.Perm fs :=
    (List.perm_ext_iff_of_nodup (sorted_toList _).nodup sorted.nodup).mpr (mem_lastWins sorted)
  refine alike.eq_of_pairwise (fun f g _ _ before after => ?_) (sorted_toList _) sorted
  cases after.symm.trans (Std.OrientedCmp.gt_of_lt before)

end

end Decoder

namespace Value

/-- The objects inside list their fields in the order of the names. -/
inductive Ordered : Value → Prop where
  | null : Ordered null
  | bool (b : Bool) : Ordered (bool b)
  | number (n : Number) : Ordered (number n)
  | text (s : String) : Ordered (text s)
  | list {xs : List Value} (items : ∀ x ∈ xs, Ordered x) : Ordered (list xs)
  | object {fs : List (String × Value)} (sorted : Decoder.Sorted fs)
    (fields : ∀ f ∈ fs, Ordered f.2) : Ordered (object fs)

mutual

/-- How many lists and objects the value is nested in itself. -/
def depth : Value → Nat
  | list xs => depthItems xs + 1
  | object fs => depthFields fs + 1
  | _ => 0

def depthItems : List Value → Nat
  | [] => 0
  | x :: xs => max x.depth (depthItems xs)

def depthFields : List (String × Value) → Nat
  | [] => 0
  | (_, x) :: fs => max x.depth (depthFields fs)

end

theorem depthItems_le {xs : List Value} {n : Nat} :
    depthItems xs ≤ n ↔ ∀ x ∈ xs, x.depth ≤ n := by
  induction xs with
  | nil => simp [depthItems]
  | cons x xs ih => rw [depthItems, Nat.max_le, ih, List.forall_mem_cons]

theorem depthFields_le {fs : List (String × Value)} {n : Nat} :
    depthFields fs ≤ n ↔ ∀ f ∈ fs, f.2.depth ≤ n := by
  induction fs with
  | nil => simp [depthFields]
  | cons f fs ih => rw [depthFields, Nat.max_le, ih, List.forall_mem_cons]

end Value

theorem Tree.ofItems_eq (xs : List Value) : ofItems xs = xs.map ofValue := by
  induction xs with
  | nil => rfl
  | cons x xs ih => rw [ofItems, ih, List.map_cons]

namespace Decoder

theorem enter_eq_some {room rest : Nat} : enter room = some rest ↔ room = rest + 1 := by
  cases room <;> simp [enter]

theorem values_ofItems {xs : List Value} {room : Nat}
    (each : ∀ x ∈ xs, value room (Tree.ofValue x) = some x) :
    values room (Tree.ofItems xs) = some xs := by
  induction xs with
  | nil => rfl
  | cons x xs ih =>
    obtain ⟨first, others⟩ := List.forall_mem_cons.mp each
    rw [Tree.ofItems, values, first, ih others]
    rfl

theorem fieldValues_ofFields {fs : List (String × Value)} {room : Nat}
    (each : ∀ f ∈ fs, value room (Tree.ofValue f.2) = some f.2) :
    fieldValues room (Tree.ofFields fs) = some fs := by
  induction fs with
  | nil => rfl
  | cons f fs ih =>
    obtain ⟨first, others⟩ := List.forall_mem_cons.mp each
    rw [Tree.ofFields, fieldValues, first, ih others]
    rfl

/-- A value is read back from its tree. -/
theorem value_ofValue {v : Value} (ordered : v.Ordered) {room : Nat} (enough : v.depth ≤ room) :
    value room (Tree.ofValue v) = some v := by
  induction ordered generalizing room with
  | null | bool b | number n | text s => rfl
  | list items ih =>
    obtain ⟨rest, rfl⟩ := Nat.exists_eq_add_of_le' (Nat.le_of_add_left_le enough)
    have within := Value.depthItems_le.mp (Nat.le_of_succ_le_succ enough)
    rw [Tree.ofValue, value, enter_eq_some.mpr rfl, Option.bind_eq_bind, Option.bind_some,
      values_ofItems fun x member => ih x member (within x member)]
    rfl
  | object sorted fields ih =>
    obtain ⟨rest, rfl⟩ := Nat.exists_eq_add_of_le' (Nat.le_of_add_left_le enough)
    have within := Value.depthFields_le.mp (Nat.le_of_succ_le_succ enough)
    rw [Tree.ofValue, value, enter_eq_some.mpr rfl, Option.bind_eq_bind, Option.bind_some,
      fieldValues_ofFields fun f member => ih f member (within f member), Option.bind_eq_bind,
      Option.bind_some, toList_lastWins sorted]
    rfl

/-! Nothing else is read of any tree. -/

mutual

theorem ordered_of_value : ∀ {room : Nat} {t : Tree} {v : Value}, value room t = some v → v.Ordered
  | _, .null, _, reads => by
    cases reads
    exact .null
  | _, .bool b, _, reads => by
    cases reads
    exact .bool b
  | _, .number n, _, reads => by
    obtain ⟨n, _, rfl⟩ := Option.map_eq_some_iff.mp reads
    exact .number n
  | _, .text s, _, reads => by
    obtain ⟨s, _, rfl⟩ := Option.map_eq_some_iff.mp reads
    exact .text s
  | _, .list ts, _, reads => by
    obtain ⟨room, _, enters⟩ := Option.bind_eq_some_iff.mp reads
    obtain ⟨xs, items, made⟩ := Option.bind_eq_some_iff.mp enters
    cases made
    exact .list (ordered_of_values items)
  | _, .object ts, _, reads => by
    obtain ⟨room, _, enters⟩ := Option.bind_eq_some_iff.mp reads
    obtain ⟨fs, fields, made⟩ := Option.bind_eq_some_iff.mp enters
    cases made
    exact .object (sorted_toList _) fun f member =>
      ordered_of_fieldValues fields f (mem_of_lastWins member)

theorem ordered_of_values : ∀ {room : Nat} {ts : List Tree} {xs : List Value},
    values room ts = some xs → ∀ x ∈ xs, x.Ordered
  | _, [], _, reads => by
    cases reads
    exact nofun
  | _, t :: ts, _, reads => by
    obtain ⟨x, first, rest⟩ := Option.bind_eq_some_iff.mp reads
    obtain ⟨xs, others, made⟩ := Option.bind_eq_some_iff.mp rest
    cases made
    exact List.forall_mem_cons.mpr ⟨ordered_of_value first, ordered_of_values others⟩

theorem ordered_of_fieldValues : ∀ {room : Nat} {ts : List (Option String × Tree)}
    {fs : List (String × Value)}, fieldValues room ts = some fs → ∀ f ∈ fs, f.2.Ordered
  | _, [], _, reads => by
    cases reads
    exact nofun
  | _, (name, t) :: ts, _, reads => by
    obtain ⟨name, _, named⟩ := Option.bind_eq_some_iff.mp reads
    obtain ⟨x, first, rest⟩ := Option.bind_eq_some_iff.mp named
    obtain ⟨fs, others, made⟩ := Option.bind_eq_some_iff.mp rest
    cases made
    exact List.forall_mem_cons.mpr ⟨ordered_of_value first, ordered_of_fieldValues others⟩

end

end Decoder

end Onboarding
