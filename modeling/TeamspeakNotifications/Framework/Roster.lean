import Mathlib.Order.BooleanAlgebra.Set
import Mathlib.Logic.Function.Basic

/-! # Replaying arrivals and departures

    A log of arrivals and departures is replayed against a set of those who are
    present. The replay is strict: who arrives has to be absent, who leaves has
    to be present.

    * `Replays`: the log leads from one set to another. The result is unique,
      and a log may be replayed in two parts.
    * `presentAt`: the names of those members that are at a given place.
    * `replays_relocation`: when one member goes from one place to another, the
      departure from the place watched followed by the arrival there is the log
      that replays to who is there afterwards.
-/

namespace Roster

variable {α ι κ : Type}

inductive Entry (α : Type) where
  | join (a : α)
  | leave (a : α)
  deriving DecidableEq

/-! ## Section 1: Replay -/

/-- Replayed against `X`, the log leads to `Y`. -/
def Replays : Set α → List (Entry α) → Set α → Prop
  | X, [], Y => X = Y
  | X, .join a :: es, Y => a ∉ X ∧ Replays (insert a X) es Y
  | X, .leave a :: es, Y => a ∈ X ∧ Replays (X \ {a}) es Y

@[simp] theorem replays_nil {X Y : Set α} : Replays X [] Y ↔ X = Y := Iff.rfl

@[simp] theorem replays_join {X Y : Set α} {a : α} {es : List (Entry α)} :
    Replays X (.join a :: es) Y ↔ a ∉ X ∧ Replays (insert a X) es Y := Iff.rfl

@[simp] theorem replays_leave {X Y : Set α} {a : α} {es : List (Entry α)} :
    Replays X (.leave a :: es) Y ↔ a ∈ X ∧ Replays (X \ {a}) es Y := Iff.rfl

/-- A log leads to one set only. -/
theorem Replays.unique {X Y Z : Set α} {es : List (Entry α)} (hY : Replays X es Y)
    (hZ : Replays X es Z) : Y = Z := by
  induction es generalizing X with
  | nil => exact hY.symm.trans hZ
  | cons e es ih =>
    cases e with
    | join a => exact ih hY.2 hZ.2
    | leave a => exact ih hY.2 hZ.2

/-- A log may be replayed in two parts. -/
theorem replays_append {X Z : Set α} {es fs : List (Entry α)} :
    Replays X (es ++ fs) Z ↔ ∃ Y, Replays X es Y ∧ Replays Y fs Z := by
  induction es generalizing X with
  | nil => simp
  | cons e es ih =>
    cases e with
    | join a => simp [ih, and_assoc]
    | leave a => simp [ih, and_assoc]

/-! ## Section 2: Members at a place -/

/-- The names of the members counted by `P` that are at the place `c`. -/
def presentAt (name : ι → α) (P : ι → Prop) (place : ι → κ) (c : κ) : Set α :=
  {a | ∃ i, P i ∧ place i = c ∧ name i = a}

section presentAt

variable {name : ι → α} {P : ι → Prop} {place : ι → κ} {c new : κ} {i : ι}

theorem name_mem_presentAt (hname : Function.Injective name) :
    name i ∈ presentAt name P place c ↔ P i ∧ place i = c := by
  constructor
  · intro h
    obtain ⟨j, hP, hplace, hj⟩ := h
    cases hname hj
    exact ⟨hP, hplace⟩
  · intro h
    obtain ⟨hP, hplace⟩ := h
    exact ⟨i, hP, hplace, rfl⟩

variable [DecidableEq ι]

/-- Who else is there does not change when `i` goes somewhere. -/
theorem presentAt_update_diff :
    presentAt name P (Function.update place i new) c \ {name i} =
      presentAt name P place c \ {name i} := by
  ext a
  constructor
  · intro h
    obtain ⟨⟨j, hP, hplace, rfl⟩, hne⟩ := h
    have hj : j ≠ i := fun h => hne (h ▸ rfl)
    rw [Function.update_of_ne hj] at hplace
    exact ⟨⟨j, hP, hplace, rfl⟩, hne⟩
  · intro h
    obtain ⟨⟨j, hP, hplace, rfl⟩, hne⟩ := h
    have hj : j ≠ i := fun h => hne (h ▸ rfl)
    exact ⟨⟨j, hP, by rw [Function.update_of_ne hj]; exact hplace, rfl⟩, hne⟩

variable [DecidableEq κ]

/-- The log of one member's move, as seen from the place `c`. -/
def relocation (c : κ) (a : α) (old new : κ) : List (Entry α) :=
  (if old = c then [.leave a] else []) ++ (if new = c then [.join a] else [])

omit [DecidableEq ι] in
/-- The departure of `i`, if it was there. -/
theorem replays_departure (hname : Function.Injective name) (hi : P i) :
    Replays (presentAt name P place c) (if place i = c then [.leave (name i)] else [])
      (presentAt name P place c \ {name i}) := by
  by_cases hold : place i = c
  · rw [if_pos hold]
    exact ⟨(name_mem_presentAt hname).mpr ⟨hi, hold⟩, rfl⟩
  · rw [if_neg hold]
    have habsent : name i ∉ presentAt name P place c := fun h =>
      hold ((name_mem_presentAt hname).mp h).2
    exact (Set.sdiff_singleton_eq_self habsent).symm

/-- The arrival of `i`, if it goes there. -/
theorem replays_arrival (hname : Function.Injective name) (hi : P i) :
    Replays (presentAt name P place c \ {name i}) (if new = c then [.join (name i)] else [])
      (presentAt name P (Function.update place i new) c) := by
  have hsame : presentAt name P place c \ {name i} =
      presentAt name P (Function.update place i new) c \ {name i} := presentAt_update_diff.symm
  rw [hsame]
  by_cases hnew : new = c
  · rw [if_pos hnew]
    have hthere : name i ∈ presentAt name P (Function.update place i new) c :=
      (name_mem_presentAt hname).mpr ⟨hi, by rw [Function.update_self]; exact hnew⟩
    exact ⟨fun h => h.2 rfl, Set.insert_sdiff_self_of_mem hthere⟩
  · rw [if_neg hnew]
    have habsent : name i ∉ presentAt name P (Function.update place i new) c := fun h => by
      have hplace := ((name_mem_presentAt hname).mp h).2
      rw [Function.update_self] at hplace
      exact hnew hplace
    exact Set.sdiff_singleton_eq_self habsent

/-- **One move.** Its log leads from who was at `c` to who is there now. -/
theorem replays_relocation (hname : Function.Injective name) (hi : P i) :
    Replays (presentAt name P place c) (relocation c (name i) (place i) new)
      (presentAt name P (Function.update place i new) c) :=
  replays_append.mpr ⟨_, replays_departure hname hi, replays_arrival hname hi⟩

/-- A move changes who is at `c` exactly when it starts or ends there, but not
    both. -/
theorem presentAt_update_eq_iff (hname : Function.Injective name) (hi : P i) :
    presentAt name P (Function.update place i new) c = presentAt name P place c ↔
      (new = c ↔ place i = c) := by
  constructor
  · intro h
    have hmem := Set.ext_iff.mp h (name i)
    rw [name_mem_presentAt hname, name_mem_presentAt hname, Function.update_self] at hmem
    simpa [hi] using hmem
  · intro h
    have hreplays : Replays (presentAt name P place c) (relocation c (name i) (place i) new)
        (presentAt name P (Function.update place i new) c) := replays_relocation hname hi
    by_cases hold : place i = c
    · rw [relocation, if_pos hold, if_pos (h.mpr hold)] at hreplays
      have hthere : name i ∈ presentAt name P place c :=
        (name_mem_presentAt hname).mpr ⟨hi, hold⟩
      have hend : insert (name i) (presentAt name P place c \ {name i}) = _ := hreplays.2.2
      rw [← hend]
      exact Set.insert_sdiff_self_of_mem hthere
    · rw [relocation, if_neg hold, if_neg (fun hn => hold (h.mp hn))] at hreplays
      exact Eq.symm hreplays

end presentAt

end Roster
