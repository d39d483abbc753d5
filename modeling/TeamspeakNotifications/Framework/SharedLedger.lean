import TeamspeakNotifications.Framework.Interleaving
import TeamspeakNotifications.Framework.Ledger

/-! # Ledgers of several owners

    Several owners acquire, use and release resources in turns, and one ledger
    holds the actions of all of them. An owner that keeps to what it has acquired
    itself is not disturbed by the others.

    * `acquired`: what is acquired in a ledger.
    * `settle_shared`: the actions of all owners settle together if each owner's
      settle alone, and leave what the owners leave.
-/

namespace Ledger

open Interaction

variable {α ι : Type}

/-! ## Section 1: Acquisitions -/

/-- The resource acquired, if the action is an acquisition. -/
def Action.acquired? : Action α → Option α
  | .acquire a => some a
  | _ => none

/-- The resources acquired, in order. -/
def acquired (as : List (Action α)) : List α := as.filterMap Action.acquired?

variable [DecidableEq α]

/-- What begins a ledger that settles, settles. -/
theorem exists_settle_of_initial {xs ys : List α} {as bs : List (Action α)}
    (h : settle xs (as ++ bs) = some ys) : ∃ zs, settle xs as = some zs := by
  rw [settle_append] at h
  obtain ⟨zs, hzs, -⟩ := Option.bind_eq_some_iff.mp h
  exact ⟨zs, hzs⟩

/-! ## Section 2: One ledger for all -/

section shared

variable [DecidableEq ι] {is : List ι}

/-- The owners but `i` go on as before, `i` from what it has now. -/
theorem settles_update {xs ys : ι → List α} {i : ι} {a : Action α} {l : List (ι × Action α)}
    {zs : List α} (h : ∀ j ∈ is, settle (xs j) (part j ((i, a) :: l)) = some (ys j))
    (hi : settle zs (part i l) = some (ys i)) :
    ∀ j ∈ is, settle (Function.update xs i zs j) (part j l) = some (ys j) := by
  intro j hj
  by_cases hji : j = i
  · subst hji
    rw [Function.update_self]
    exact hi
  · have hthere := h j hj
    rw [part_cons_ne (Ne.symm hji)] at hthere
    rw [Function.update_of_ne hji]
    exact hthere

/-- **Owners.** If the actions of each owner settle, then so do those of all in
    the order in which they happen; and what is outstanding at the end is what
    the owners have then. The proof is by induction on the actions, from what
    the owners have. -/
theorem settle_shared (hn : is.Nodup) {l : List (ι × Action α)} (hl : ∀ e ∈ l, e.1 ∈ is)
    {xs ys : ι → List α} (h : ∀ i ∈ is, settle (xs i) (part i l) = some (ys i))
    {zs : List α} (hzs : zs.Perm (is.flatMap xs)) :
    ∃ ws, settle zs (l.map Prod.snd) = some ws ∧ ws.Perm (is.flatMap ys) := by
  induction l generalizing xs zs with
  | nil =>
    have hsame : ∀ i ∈ is, xs i = ys i := fun i hi => Option.some.inj (h i hi)
    exact ⟨zs, rfl, (List.flatMap_congr hsame) ▸ hzs⟩
  | cons e l ih =>
    obtain ⟨i, a⟩ := e
    have hi : i ∈ is := hl _ List.mem_cons_self
    have hrest : ∀ e ∈ l, e.1 ∈ is := fun e he => hl e (List.mem_cons_of_mem _ he)
    have hown := h i hi
    rw [part_cons_self] at hown
    have hsplit : zs.Perm (xs i ++ (is.erase i).flatMap xs) := hzs.trans (perm_owner hn hi xs)
    cases a with
    | acquire a =>
      have hnext : (a :: zs).Perm (is.flatMap (Function.update xs i (a :: xs i))) :=
        (hsplit.cons a).trans (perm_update hn hi xs (a :: xs i)).symm
      exact ih hrest (settles_update h hown) hnext
    | use a =>
      by_cases ha : a ∈ xs i
      · rw [settle, if_pos ha] at hown
        have hmem : a ∈ zs := hsplit.mem_iff.mpr (List.mem_append_left _ ha)
        have hnext : zs.Perm (is.flatMap (Function.update xs i (xs i))) :=
          hsplit.trans (perm_update hn hi xs (xs i)).symm
        rw [List.map_cons, settle, if_pos hmem]
        exact ih hrest (settles_update h hown) hnext
      · rw [settle, if_neg ha] at hown
        exact absurd hown (by simp)
    | release a =>
      by_cases ha : a ∈ xs i
      · rw [settle, if_pos ha] at hown
        have hmem : a ∈ zs := hsplit.mem_iff.mpr (List.mem_append_left _ ha)
        -- the owner's copy is the one that is taken off
        have herase : (zs.erase a).Perm ((xs i).erase a ++ (is.erase i).flatMap xs) := by
          rw [← List.erase_append_left _ ha]
          exact hsplit.erase a
        have hnext : (zs.erase a).Perm (is.flatMap (Function.update xs i ((xs i).erase a))) :=
          herase.trans (perm_update hn hi xs _).symm
        rw [List.map_cons, settle, if_pos hmem]
        exact ih hrest (settles_update h hown) hnext
      · rw [settle, if_neg ha] at hown
        exact absurd hown (by simp)

end shared

end Ledger
