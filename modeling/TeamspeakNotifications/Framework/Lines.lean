import Mathlib.Data.List.Basic

/-! # A stream read line by line into a buffer

    A reader with room for `cap` elements takes them from a stream until a
    terminator `nl` has been taken or the room is used up. A line that is longer
    than the buffer therefore arrives in several pieces.

    * `next`: one piece and what is left of the stream.
    * `pieces`: all of them. `left` is the room on the first.
    * `flatten_pieces`: nothing is lost, added or moved.
    * `pieces_line`, `pieces_full`, `pieces_append`: where the stream is cut, and
      that what follows a terminator is read as if the stream began there.
-/

namespace Lines

variable {α : Type}

/-- An element at the front of the first piece. -/
def glue (c : α) : List (List α) → List (List α)
  | [] => [[c]]
  | l :: ls => (c :: l) :: ls

theorem flatten_glue (c : α) (ls : List (List α)) : (glue c ls).flatten = c :: ls.flatten := by
  rcases ls with _ | ⟨l, ls⟩ <;> rfl

theorem length_glue_le (c : α) (ls : List (List α)) : (glue c ls).length ≤ ls.length + 1 := by
  rcases ls with _ | ⟨l, ls⟩
  · exact Nat.le_refl 1
  · exact Nat.le_succ _

theorem mem_glue {c : α} {ls : List (List α)} {l : List α} (h : l ∈ glue c ls) :
    l ∈ ls ∨ l = [c] ∨ ∃ l' ∈ ls.head?, l = c :: l' := by
  rcases ls with _ | ⟨l', ls⟩
  · exact Or.inr (Or.inl (List.mem_singleton.mp h))
  · rcases List.mem_cons.mp h with rfl | h
    · exact Or.inr (Or.inr ⟨l', rfl, rfl⟩)
    · exact Or.inl (List.mem_cons_of_mem l' h)

variable [DecidableEq α]

/-! ## Section 1: One piece -/

/-- At most `cap` elements, through the first `nl`. -/
def next (nl : α) : Nat → List α → List α × List α
  | 0, s => ([], s)
  | _ + 1, [] => ([], [])
  | cap + 1, c :: s =>
    if c = nl then ([c], s) else (c :: (next nl cap s).1, (next nl cap s).2)

@[simp] theorem next_append (nl : α) (cap : Nat) (s : List α) :
    (next nl cap s).1 ++ (next nl cap s).2 = s := by
  induction s generalizing cap with
  | nil => rcases cap with _ | cap <;> rfl
  | cons c s ih =>
    rcases cap with _ | cap
    · rfl
    · unfold next
      split
      · rfl
      · exact congrArg (c :: ·) (ih cap)

theorem next_length_le (nl : α) (cap : Nat) (s : List α) :
    (next nl cap s).1.length ≤ cap := by
  induction s generalizing cap with
  | nil => rcases cap with _ | cap <;> exact Nat.zero_le _
  | cons c s ih =>
    rcases cap with _ | cap
    · exact Nat.le_refl 0
    · unfold next
      split
      · exact Nat.succ_le_succ (Nat.zero_le cap)
      · exact Nat.succ_le_succ (ih cap)

theorem next_ne_nil (nl : α) {cap : Nat} (hcap : 0 < cap) {s : List α} (hs : s ≠ []) :
    (next nl cap s).1 ≠ [] := by
  obtain ⟨cap, rfl⟩ := Nat.exists_eq_add_one.mpr hcap
  obtain ⟨c, s, rfl⟩ := List.exists_cons_of_ne_nil hs
  unfold next
  split
  · exact List.cons_ne_nil _ _
  · exact List.cons_ne_nil _ _

/-! ## Section 2: All pieces -/

/-- The pieces of a stream, when `left` elements fit on the first of them and
    `cap` on each of the others. -/
def pieces (nl : α) (cap : Nat) : Nat → List α → List (List α)
  | _, [] => []
  | left, c :: s =>
    if c = nl ∨ left ≤ 1 then [c] :: pieces nl cap cap s
    else glue c (pieces nl cap (left - 1) s)

@[simp] theorem pieces_nil (nl : α) (cap left : Nat) : pieces nl cap left [] = [] := rfl

theorem pieces_cons_of_end {nl c : α} {cap left : Nat} (h : c = nl ∨ left ≤ 1) (s : List α) :
    pieces nl cap left (c :: s) = [c] :: pieces nl cap cap s := if_pos h

theorem pieces_cons_of_more {nl c : α} {cap left : Nat} (h : ¬ (c = nl ∨ left ≤ 1))
    (s : List α) : pieces nl cap left (c :: s) = glue c (pieces nl cap (left - 1) s) :=
  if_neg h

theorem pieces_singleton (nl c : α) (cap left : Nat) : pieces nl cap left [c] = [[c]] := by
  unfold pieces
  split <;> rfl

/-- Reading piece by piece gives the pieces. -/
theorem pieces_eq_next (nl : α) (cap : Nat) {left : Nat} (hleft : 0 < left) {s : List α}
    (hs : s ≠ []) :
    pieces nl cap left s = (next nl left s).1 :: pieces nl cap cap (next nl left s).2 := by
  induction s generalizing left with
  | nil => exact absurd rfl hs
  | cons c s ih =>
    obtain ⟨left, rfl⟩ := Nat.exists_eq_add_one.mpr hleft
    unfold next
    by_cases hc : c = nl
    · rw [pieces_cons_of_end (Or.inl hc), if_pos hc]
    · rw [if_neg hc]
      rcases Nat.eq_zero_or_pos left with rfl | hpos
      · rw [pieces_cons_of_end (Or.inr (Nat.le_refl 1))]
        rfl
      · rcases s with _ | ⟨d, s⟩
        · rw [pieces_singleton]
          rcases left with _ | left
          · exact absurd hpos (Nat.lt_irrefl 0)
          · rfl
        · have hrest := ih hpos (List.cons_ne_nil d s)
          have hmore : ¬ (c = nl ∨ left + 1 ≤ 1) := by
            rintro (heq | hle)
            · exact hc heq
            · omega
          rw [pieces_cons_of_more hmore, Nat.add_sub_cancel, hrest]
          rfl

theorem flatten_pieces (nl : α) (cap left : Nat) (s : List α) :
    (pieces nl cap left s).flatten = s := by
  induction s generalizing left with
  | nil => rfl
  | cons c s ih =>
    unfold pieces
    split
    · exact congrArg (c :: ·) (ih cap)
    · rw [flatten_glue, ih]

theorem pieces_eq_nil {nl : α} {cap left : Nat} {s : List α} :
    pieces nl cap left s = [] ↔ s = [] := by
  constructor
  · intro h
    rw [← flatten_pieces nl cap left s, h]
    rfl
  · rintro rfl
    rfl

/-- There are no more pieces than elements. -/
theorem length_pieces_le (nl : α) (cap left : Nat) (s : List α) :
    (pieces nl cap left s).length ≤ s.length := by
  induction s generalizing left with
  | nil => exact Nat.le_refl 0
  | cons c s ih =>
    unfold pieces
    split
    · exact Nat.succ_le_succ (ih cap)
    · have hrest := ih (left - 1)
      have hglue := length_glue_le c (pieces nl cap (left - 1) s)
      rw [List.length_cons]
      omega

/-- The first piece has the room that is left. -/
theorem head_pieces_length_le {nl : α} {cap left : Nat} (hleft : 0 < left) {s l : List α}
    (h : l ∈ (pieces nl cap left s).head?) : l.length ≤ left := by
  rcases s with _ | ⟨c, s⟩
  · exact absurd h (by simp)
  · rw [pieces_eq_next nl cap hleft (List.cons_ne_nil c s)] at h
    obtain rfl : _ = l := by simpa using h
    exact next_length_le nl left (c :: s)

/-- A piece fits in the buffer, and the terminator can only be its last element. -/
theorem of_mem_pieces {nl : α} {cap : Nat} (hcap : 0 < cap) {left : Nat} (hleft : 0 < left)
    (hle : left ≤ cap) {s l : List α} (h : l ∈ pieces nl cap left s) :
    l.length ≤ cap ∧ nl ∉ l.dropLast := by
  induction s generalizing left l with
  | nil => exact absurd h List.not_mem_nil
  | cons c s ih =>
    unfold pieces at h
    split at h
    · rcases List.mem_cons.mp h with rfl | h
      · exact ⟨hcap, by simp⟩
      · exact ih hcap (Nat.le_refl cap) h
    · rename_i hmore
      have hleft' : 0 < left - 1 := by omega
      rcases mem_glue h with h | rfl | ⟨l', hl', rfl⟩
      · exact ih hleft' (by omega) h
      · exact ⟨hcap, by simp⟩
      · have hlen := head_pieces_length_le hleft' hl'
        obtain ⟨_, hno⟩ := ih hleft' (by omega) (List.mem_of_mem_head? hl')
        refine ⟨?_, ?_⟩
        · rw [List.length_cons]
          omega
        · rcases l' with _ | ⟨d, l'⟩
          · simp
          · rw [List.dropLast_cons_cons, List.mem_cons, not_or]
            exact ⟨fun heq => hmore (Or.inl heq.symm), hno⟩

/-! ## Section 3: Where the stream is cut -/

/-- A line that fits is one piece. -/
theorem pieces_line {nl : α} {cap : Nat} {l : List α} (hl : nl ∉ l) {left : Nat}
    (hlen : l.length < left) (s : List α) :
    pieces nl cap left (l ++ nl :: s) = (l ++ [nl]) :: pieces nl cap cap s := by
  induction l generalizing left with
  | nil => exact pieces_cons_of_end (Or.inl rfl) s
  | cons c l ih =>
    rw [List.mem_cons, not_or] at hl
    rw [List.length_cons] at hlen
    have hmore : ¬ (c = nl ∨ left ≤ 1) := by
      rintro (heq | hle)
      · exact hl.1 heq.symm
      · omega
    rw [List.cons_append, pieces_cons_of_more hmore, ih hl.2 (by omega)]
    rfl

/-- Where the room is used up, the next piece begins. -/
theorem pieces_full {nl : α} (cap : Nat) {l : List α} (hl : nl ∉ l) (hne : l ≠ []) (s : List α) :
    pieces nl cap l.length (l ++ s) = l :: pieces nl cap cap s := by
  induction l with
  | nil => exact absurd rfl hne
  | cons c l ih =>
    rw [List.mem_cons, not_or] at hl
    rcases l with _ | ⟨d, l⟩
    · exact pieces_cons_of_end (Or.inr (Nat.le_refl 1)) s
    · have hmore : ¬ (c = nl ∨ (c :: d :: l).length ≤ 1) := by
        rintro (heq | hle)
        · exact hl.1 heq.symm
        · rw [List.length_cons, List.length_cons] at hle
          omega
      rw [List.cons_append, pieces_cons_of_more hmore, List.length_cons, Nat.add_sub_cancel,
        ih hl.2 (List.cons_ne_nil d l)]
      rfl

/-- **Compositionality.** What follows a terminator is read as if the stream
    began there. -/
theorem pieces_append (nl : α) (cap left : Nat) (s t : List α) :
    pieces nl cap left (s ++ nl :: t) =
      pieces nl cap left (s ++ [nl]) ++ pieces nl cap cap t := by
  induction s generalizing left with
  | nil =>
    rw [List.nil_append, List.nil_append, pieces_cons_of_end (Or.inl rfl),
      pieces_cons_of_end (Or.inl rfl)]
    rfl
  | cons c s ih =>
    rw [List.cons_append, List.cons_append]
    by_cases hend : c = nl ∨ left ≤ 1
    · rw [pieces_cons_of_end hend, pieces_cons_of_end hend, ih cap]
      rfl
    · rw [pieces_cons_of_more hend, pieces_cons_of_more hend, ih (left - 1)]
      have hne : pieces nl cap (left - 1) (s ++ [nl]) ≠ [] := by
        rw [Ne, pieces_eq_nil]
        exact List.append_ne_nil_of_right_ne_nil s (List.cons_ne_nil nl [])
      obtain ⟨l, ls, hls⟩ := List.exists_cons_of_ne_nil hne
      rw [hls]
      rfl

end Lines
