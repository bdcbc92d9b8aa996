import Onboarding.Number.Lexeme
import Std.Data.ExtTreeMap

/-! JSON values, and the free-form data of an entry: a finite map from names to values. -/
namespace Onboarding

/-- A finite map listed in the order of its keys. Two of them are equal as soon as they answer
every look-up alike. -/
abbrev Table (κ α : Type) [Ord κ] := Std.ExtTreeMap κ α

/-- A value of a document. The fields of an object keep the order in which they are written. -/
inductive Value where
  | null
  | bool (b : Bool)
  | number (n : Number)
  | text (s : String)
  | list (items : List Value)
  | object (fields : List (String × Value))

/-- Connection data, options, or the input of a form. -/
abbrev Data := Table String Value

namespace Value

mutual

/-- Equality of values: numbers of one kind by value, lists in order, fields by name. -/
def same : Value → Value → Bool
  | null, null => true
  | bool a, bool b => a == b
  | number m, number n => m.same n
  | text s, text t => s == t
  | list xs, list ys => sameItems xs ys
  | object fs, object gs => sameFields fs gs
  | _, _ => false

def sameItems : List Value → List Value → Bool
  | [], [] => true
  | x :: xs, y :: ys => x.same y && sameItems xs ys
  | _, _ => false

def sameFields : List (String × Value) → List (String × Value) → Bool
  | [], [] => true
  | (j, x) :: fs, (k, y) :: gs => j == k && x.same y && sameFields fs gs
  | _, _ => false

end

mutual

theorem same_refl : ∀ v : Value, v.same v = true
  | null => rfl
  | bool b => by simp [same]
  | number n => by simp [same, Number.same_refl]
  | text s => by simp [same]
  | list xs => sameItems_refl xs
  | object fs => sameFields_refl fs

theorem sameItems_refl : ∀ xs : List Value, sameItems xs xs = true
  | [] => rfl
  | x :: xs => by simp [sameItems, same_refl x, sameItems_refl xs]

theorem sameFields_refl : ∀ fs : List (String × Value), sameFields fs fs = true
  | [] => rfl
  | (_, x) :: fs => by simp [sameFields, same_refl x, sameFields_refl fs]

end

def text? : Value → Option String
  | text s => some s
  | _ => none

def bool? : Value → Option Bool
  | bool b => some b
  | _ => none

/-- The integer at or above zero that the value is. A float is none, even a whole one. -/
def natural? : Value → Option Nat
  | number (.integer n) => if 0 ≤ n then some n.toNat else none
  | _ => none

def ofNat (n : Nat) : Value := number (.integer n)

/-- Nothing is written as null. -/
def ofOption (f : α → Value) : Option α → Value
  | none => null
  | some a => f a

end Value

namespace Data

/-- The data as one value, with its names in order. -/
def toValue (d : Data) : Value := .object d.toList

/-- Equality of data as values. -/
def same (a b : Data) : Bool := Value.sameFields a.toList b.toList

/-- The text under a name, if there is one. -/
def text? (d : Data) (name : String) : Option String := d[name]?.bind Value.text?

@[simp] theorem same_refl (d : Data) : d.same d = true := Value.sameFields_refl _

/-- The values of `new` over those of `old`. -/
def overlay (old new : Data) : Data := old ∪ new

theorem getElem?_overlay (old new : Data) (name : String) :
    (old.overlay new)[name]? = new[name]?.or old[name]? := Std.ExtTreeMap.getElem?_union

end Data

end Onboarding
