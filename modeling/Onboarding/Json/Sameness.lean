import Onboarding.Json.Value

/-! Sameness of values is an equivalence. It is coarser than equality: the two zeros among the
floats are the same value. -/
namespace Onboarding

namespace Value

mutual

theorem same_comm : ∀ v w : Value, v.same w = w.same v
  | null, w => by cases w <;> rfl
  | bool _, w => by cases w <;> simp [same, BEq.comm]
  | number _, w => by cases w <;> simp [same, Number.same_comm]
  | text _, w => by cases w <;> simp [same, BEq.comm]
  | list xs, w => by cases w <;> simp [same, sameItems_comm xs]
  | object fs, w => by cases w <;> simp [same, sameFields_comm fs]

theorem sameItems_comm : ∀ xs ys : List Value, sameItems xs ys = sameItems ys xs
  | [], ys => by cases ys <;> rfl
  | x :: xs, ys => by cases ys <;> simp [sameItems, same_comm x, sameItems_comm xs]

theorem sameFields_comm : ∀ fs gs : List (String × Value), sameFields fs gs = sameFields gs fs
  | [], gs => by cases gs <;> rfl
  | (j, x) :: fs, [] => rfl
  | (j, x) :: fs, (k, y) :: gs => by
    simp only [sameFields, same_comm x, sameFields_comm fs, BEq.comm (a := j)]

end

mutual

theorem same_trans : ∀ {u v w : Value}, u.same v = true → v.same w = true → u.same w = true
  | null, v, w, h, k => by cases v <;> cases w <;> simp_all [same]
  | bool _, v, w, h, k => by cases v <;> cases w <;> simp_all [same]
  | number _, v, w, h, k => by
    cases v <;> cases w <;> simp_all [same]
    exact Number.same_trans h k
  | text _, v, w, h, k => by cases v <;> cases w <;> simp_all [same]
  | list _, v, w, h, k => by
    cases v <;> cases w <;> simp_all [same]
    exact sameItems_trans h k
  | object _, v, w, h, k => by
    cases v <;> cases w <;> simp_all [same]
    exact sameFields_trans h k

theorem sameItems_trans : ∀ {xs ys zs : List Value},
    sameItems xs ys = true → sameItems ys zs = true → sameItems xs zs = true
  | [], ys, zs, h, k => by cases ys <;> cases zs <;> simp_all [sameItems]
  | _ :: _, ys, zs, h, k => by
    cases ys <;> cases zs <;> simp_all [sameItems]
    exact ⟨same_trans h.1 k.1, sameItems_trans h.2 k.2⟩

theorem sameFields_trans : ∀ {fs gs hs : List (String × Value)},
    sameFields fs gs = true → sameFields gs hs = true → sameFields fs hs = true
  | [], gs, hs, h, k => by cases gs <;> cases hs <;> simp_all [sameFields]
  | _ :: _, [], _, h, _ => by simp [sameFields] at h
  | _ :: _, _ :: _, [], _, k => by simp [sameFields] at k
  | (_, _) :: _, (_, _) :: _, (_, _) :: _, h, k => by
    simp only [sameFields, Bool.and_eq_true, beq_iff_eq] at h k ⊢
    obtain ⟨⟨hn, hx⟩, hs⟩ := h
    obtain ⟨⟨kn, kx⟩, ks⟩ := k
    exact ⟨⟨hn.trans kn, same_trans hx kx⟩, sameFields_trans hs ks⟩

end

end Value

namespace Data

theorem same_comm (a b : Data) : a.same b = b.same a := Value.sameFields_comm _ _

theorem same_trans {a b c : Data} (h : a.same b = true) (k : b.same c = true) :
    a.same c = true := Value.sameFields_trans h k

end Data

end Onboarding
