import Mathlib.Data.List.Basic

/-! # Ledgers of resources

    Resources are acquired, used and released. A ledger of such actions is
    settled against the resources outstanding at its start: whatever is used or
    released has to be outstanding, and a release takes it off the list.

    * `settle`: the resources outstanding at the end, if nothing went wrong.
    * `Clean`: nothing outstanding before, nothing after.
    * `clean_borrow`, `not_clean_of_kept`: the two ends a resource may come to.
    * `clean_prefixes_iff`: a sequence of ledgers leaves nothing outstanding
      between any two of them exactly when each is clean by itself.
-/

namespace Ledger

variable {α : Type}

inductive Action (α : Type) where
  | acquire (a : α)
  | use (a : α)
  | release (a : α)
  deriving DecidableEq

/-- The action is a release. -/
def Action.IsRelease : Action α → Prop
  | .release _ => True
  | _ => False

variable [DecidableEq α]

/-- The resources outstanding after the actions; `none` if one is used or
    released that is not outstanding. -/
def settle : List α → List (Action α) → Option (List α)
  | xs, [] => some xs
  | xs, .acquire a :: as => settle (a :: xs) as
  | xs, .use a :: as => if a ∈ xs then settle xs as else none
  | xs, .release a :: as => if a ∈ xs then settle (xs.erase a) as else none

/-- Nothing is outstanding before, and nothing after. -/
def Clean (as : List (Action α)) : Prop := settle [] as = some []

theorem clean_nil : Clean ([] : List (Action α)) := rfl

theorem settle_append (xs : List α) (as bs : List (Action α)) :
    settle xs (as ++ bs) = (settle xs as).bind (fun ys => settle ys bs) := by
  induction as generalizing xs with
  | nil => rfl
  | cons a as ih =>
    cases a with
    | acquire a => exact ih (a :: xs)
    | use a =>
      by_cases ha : a ∈ xs
      · simp [settle, ha, ih]
      · simp [settle, ha]
    | release a =>
      by_cases ha : a ∈ xs
      · simp [settle, ha, ih]
      · simp [settle, ha]

/-- Uses of what is outstanding change nothing. -/
theorem settle_uses (xs us : List α) (hus : ∀ u ∈ us, u ∈ xs) :
    settle xs (us.map .use) = some xs := by
  induction us with
  | nil => rfl
  | cons u us ih =>
    have hu : u ∈ xs := hus u (List.mem_cons_self ..)
    have hrest : ∀ v ∈ us, v ∈ xs := fun v hv => hus v (List.mem_cons_of_mem u hv)
    simp [settle, hu, ih hrest]

/-- A resource that is used and then released. -/
theorem clean_borrow (a : α) (us : List α) (hus : ∀ u ∈ us, u = a) :
    Clean (.acquire a :: (us.map .use ++ [.release a])) := by
  have huses : settle [a] (us.map .use) = some [a] :=
    settle_uses [a] us fun u hu => List.mem_singleton.mpr (hus u hu)
  show settle [a] (us.map .use ++ [.release a]) = some []
  rw [settle_append, huses]
  simp [settle]

/-- Without a release nothing leaves the list. -/
theorem length_le_of_settle {xs ys : List α} {as : List (Action α)}
    (has : ∀ a ∈ as, ¬ a.IsRelease) (h : settle xs as = some ys) :
    xs.length ≤ ys.length := by
  induction as generalizing xs with
  | nil =>
    cases h
    exact Nat.le_refl _
  | cons a as ih =>
    have hrest : ∀ b ∈ as, ¬ b.IsRelease := fun b hb => has b (List.mem_cons_of_mem a hb)
    cases a with
    | acquire a =>
      have hle : (a :: xs).length ≤ ys.length := ih hrest h
      rw [List.length_cons] at hle
      omega
    | use a =>
      by_cases ha : a ∈ xs
      · rw [settle, if_pos ha] at h
        exact ih hrest h
      · rw [settle, if_neg ha] at h
        cases h
    | release a => exact absurd trivial (has (.release a) (List.mem_cons_self ..))

/-- A resource that is never released stays outstanding. -/
theorem not_clean_of_kept (a : α) (as : List (Action α)) (has : ∀ b ∈ as, ¬ b.IsRelease) :
    ¬ Clean (.acquire a :: as) := by
  intro h
  have hle : [a].length ≤ ([] : List α).length := length_le_of_settle has h
  simp at hle

/-! ## Sequences of ledgers -/

theorem Clean.append {as bs : List (Action α)} (has : Clean as) (hbs : Clean bs) :
    Clean (as ++ bs) := by
  unfold Clean at *
  rw [settle_append, has]
  exact hbs

theorem Clean.of_append {as bs : List (Action α)} (has : Clean as)
    (h : Clean (as ++ bs)) : Clean bs := by
  unfold Clean at *
  rw [settle_append, has] at h
  exact h

theorem clean_flatten {ledgers : List (List (Action α))} (h : ∀ l ∈ ledgers, Clean l) :
    Clean ledgers.flatten := by
  induction ledgers with
  | nil => exact clean_nil
  | cons l ls ih =>
    have hl : Clean l := h l (List.mem_cons_self ..)
    exact hl.append (ih fun l' hl' => h l' (List.mem_cons_of_mem l hl'))

/-- **Between ledgers.** Nothing is outstanding between any two ledgers of a
    sequence exactly when each of them is clean. -/
theorem clean_prefixes_iff (ledgers : List (List (Action α))) :
    (∀ done rest, ledgers = done ++ rest → Clean done.flatten) ↔
      ∀ l ∈ ledgers, Clean l := by
  constructor
  · -- the ledgers up to `l` are clean with it and without it
    intro h l hl
    obtain ⟨done, rest, hsplit⟩ := List.append_of_mem hl
    have hdone : Clean done.flatten := h done (l :: rest) hsplit
    have hnext : Clean (done ++ [l]).flatten := h (done ++ [l]) rest (by rw [hsplit]; simp)
    rw [List.flatten_concat] at hnext
    exact hdone.of_append hnext
  · intro h done rest hsplit
    apply clean_flatten
    intro l hl
    have hmem : l ∈ ledgers := by
      rw [hsplit]
      exact List.mem_append_left rest hl
    exact h l hmem

end Ledger
