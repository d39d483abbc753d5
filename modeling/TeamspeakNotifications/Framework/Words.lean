import Mathlib.Data.List.Basic

/-! # Two occurrences of a word

    A word `m` splits another one at two places, `x ++ m ++ y = x' ++ m ++ y'`.
    What can be said about the parts? Either the two occurrences of `m` do not
    overlap, or they overlap in a border of `m`, a word that `m` both begins and
    ends with.

    * `Shifted`: the second occurrence lies at or after the first.
    * `append_middle_eq_iff`: one of the two lies at or after the other.
    * `shifted_iff`: how far it lies, in terms of the borders of `m`.
-/

namespace Words

variable {α : Type}

/-- `q` is a border of `m`: `m` is `p` followed by `q`, and `q` followed by `r`. -/
structure Border (m p q r : List α) : Prop where
  suffix : m = p ++ q
  isPrefix : m = q ++ r

/-- `m` after `x`, with `y` left, and `m` after `x'`, with `y'` left, are two
    occurrences of `m` in one word, and the second is not before the first. -/
def Shifted (m x y x' y' : List α) : Prop :=
  ∃ t, x' = x ++ t ∧ m ++ y = t ++ (m ++ y')

theorem append_middle_eq_iff {m x y x' y' : List α} :
    x ++ (m ++ y) = x' ++ (m ++ y') ↔ Shifted m x y x' y' ∨ Shifted m x' y' x y := by
  rw [List.append_eq_append_iff]
  unfold Shifted
  constructor
  · intro h
    rcases h with ⟨t, hx, hy⟩ | ⟨t, hx, hy⟩
    · exact Or.inl ⟨t, hx, hy⟩
    · exact Or.inr ⟨t, hx, hy⟩
  · intro h
    rcases h with ⟨t, hx, hy⟩ | ⟨t, hx, hy⟩
    · exact Or.inl ⟨t, hx, hy⟩
    · exact Or.inr ⟨t, hx, hy⟩

/-- A border and its complements are cut out of the word by one length. -/
theorem Border.eq_take_drop {m p q r : List α} (h : Border m p q r) :
    p = m.take p.length ∧ q = m.drop p.length ∧ q = m.take (m.length - p.length) ∧
      r = m.drop (m.length - p.length) := by
  have hlength : m.length - p.length = q.length := by
    rw [h.suffix, List.length_append]
    omega
  have hp : p = m.take p.length := by
    rw [h.suffix, List.take_left']
    rfl
  have hq : q = m.drop p.length := by
    rw [h.suffix, List.drop_left']
    rfl
  have hq' : q = m.take (m.length - p.length) := by
    rw [hlength]
    conv_rhs => rw [h.isPrefix]
    rw [List.take_left']
    rfl
  have hr : r = m.drop (m.length - p.length) := by
    rw [hlength]
    conv_rhs => rw [h.isPrefix]
    rw [List.drop_left']
    rfl
  exact ⟨hp, hq, hq', hr⟩

/-- **Two occurrences.** The second either comes after the first or overlaps
    with it in a border. -/
theorem shifted_iff {m x y x' y' : List α} :
    Shifted m x y x' y' ↔
      (∃ t, x' = x ++ (m ++ t) ∧ y = t ++ (m ++ y')) ∨
        ∃ p q r, Border m p q r ∧ x' = x ++ p ∧ y = r ++ y' := by
  unfold Shifted
  constructor
  · intro h
    obtain ⟨t, rfl, hy⟩ := h
    rcases List.append_eq_append_iff.mp hy with ⟨u, rfl, hu⟩ | ⟨q, hq, hq'⟩
    · exact Or.inl ⟨u, rfl, hu⟩
    · -- the rest of the first occurrence begins the second one
      rcases List.append_eq_append_iff.mp hq' with ⟨r, hr, hr'⟩ | ⟨r, hr, hr'⟩
      · -- it is all of `m`
        have hlength := congrArg List.length hq
        rw [hr, List.length_append, List.length_append] at hlength
        have ht : t = [] := List.length_eq_zero_iff.mp (by omega)
        have hnil : r = [] := List.length_eq_zero_iff.mp (by omega)
        subst ht hnil
        exact Or.inr ⟨[], m, [], ⟨rfl, (List.append_nil m).symm⟩, rfl, hr'.symm⟩
      · exact Or.inr ⟨t, q, r, ⟨hq, hr⟩, rfl, hr'⟩
  · intro h
    rcases h with ⟨t, rfl, rfl⟩ | ⟨p, q, r, hborder, rfl, rfl⟩
    · exact ⟨m ++ t, rfl, by simp⟩
    · have hsplit : m ++ (r ++ y') = p ++ (m ++ y') := by
        calc m ++ (r ++ y') = p ++ q ++ (r ++ y') := by rw [← hborder.suffix]
          _ = p ++ (q ++ r ++ y') := by simp
          _ = p ++ (m ++ y') := by rw [← hborder.isPrefix]
      exact ⟨p, rfl, hsplit⟩

end Words
