import TeamspeakNotifications.Framework.Layers

/-! # How long a program takes

    Nothing waits in a pool: a thread that has not finished makes a call at every
    turn it gets. So it finishes, whatever the others do, as soon as it has had
    as many turns as it can make calls.

    * `Prog.Within`: a bound on what all calls of a run cost, whatever the
      answers are. A call may cost more than one.
    * `Within.bind`, `Within.inline`: bounds of sequences, and of a program with
      the layer below written out.
    * `Pool.run_turns`: a thread makes a call at each turn, or has finished.
    * `Pool.run_finished`: a thread that has had its turns has finished.
-/

namespace Interaction

variable {S T : Sig} {ι κ σ α β : Type}

/-! ## Section 1: Bounds -/

namespace Prog

/-- No run of the program costs more than `n`. -/
def Within (w : S.Call → Nat) : Prog S α → Nat → Prop
  | .pure _, _ => True
  | .call c k, n => w c ≤ n ∧ ∀ r, (k r).Within w (n - w c)

variable {w : S.Call → Nat}

theorem within_pure (a : α) (n : Nat) : (Pure.pure a : Prog S α).Within w n := trivial

theorem within_call {c : S.Call} {k : S.Answer c → Prog S α} {n : Nat}
    (hk : ∀ r, (k r).Within w n) : (Prog.call c k).Within w (w c + n) := by
  refine ⟨Nat.le_add_right _ n, ?_⟩
  intro r
  rw [Nat.add_sub_cancel_left]
  exact hk r

theorem within_perform {c : S.Call} {n : Nat} (hc : w c ≤ n) : (perform c).Within w n :=
  ⟨hc, fun _ => trivial⟩

theorem Within.mono {p : Prog S α} {n m : Nat} (hp : p.Within w n) (hnm : n ≤ m) :
    p.Within w m := by
  induction p generalizing n m with
  | pure a => trivial
  | call c k ih => exact ⟨Nat.le_trans hp.1 hnm, fun r => ih r (hp.2 r) (Nat.sub_le_sub_right hnm _)⟩

theorem Within.bind {p : Prog S α} {f : α → Prog S β} {n m : Nat} (hp : p.Within w n)
    (hf : ∀ a, (f a).Within w m) : (p >>= f).Within w (n + m) := by
  induction p generalizing n with
  | pure a => exact (hf a).mono (Nat.le_add_left m n)
  | call c k ih =>
    obtain ⟨hc, hk⟩ := hp
    refine ⟨Nat.le_trans hc (Nat.le_add_right n m), ?_⟩
    intro r
    rw [Nat.sub_add_comm hc]
    exact ih r (hk r)

theorem Within.when {b : Prop} [Decidable b] {p : Prog S Unit} {n : Nat} (hp : p.Within w n) :
    (when b p).Within w n := by
  by_cases hb : b
  · rw [when_pos hb]
    exact hp
  · rw [when_neg hb]
    trivial

/-- What is left of a bound after some calls. -/
theorem Within.makes {p q : Prog S α} {t : List (Event S)} {n : Nat}
    (hp : p.Within (fun _ => 1) n) (hpq : p.Makes t q) :
    q.Within (fun _ => 1) (n - t.length) := by
  induction hpq generalizing n with
  | nil p => exact hp
  | @call c k r t q _ ih =>
    rw [List.length_cons, Nat.add_comm, ← Nat.sub_sub]
    exact ih (hp.2 r)

/-- No run is longer than its bound. -/
theorem Within.length_le {p q : Prog S α} {t : List (Event S)} {n : Nat}
    (hp : p.Within (fun _ => 1) n) (hpq : p.Makes t q) : t.length ≤ n := by
  induction hpq generalizing n with
  | nil p => exact Nat.zero_le n
  | @call c k r t q _ ih =>
    have hrest : t.length ≤ n - 1 := ih (hp.2 r)
    have hone : 1 ≤ n := hp.1
    rw [List.length_cons]
    omega

theorem Within.right {q : Prog T α} {n : Nat} (hq : q.Within (fun _ => 1) n) :
    (q.right : Prog (S.sum T) α).Within (fun _ => 1) n := by
  induction q generalizing n with
  | pure a => trivial
  | call c k ih => exact ⟨hq.1, fun r => ih r (hq.2 r)⟩

/-- With the lower layer written out, a call costs what is done for it, and
    itself. -/
theorem Within.inline {g : S.Call → Prog T Unit} (hg : ∀ c, (g c).Within (fun _ => 1) (w c))
    {p : Prog S α} {n : Nat} (hp : p.Within (fun c => w c + 1) n) :
    (p.inline g).Within (fun _ => 1) n := by
  induction p generalizing n with
  | pure a => trivial
  | call c k ih =>
    obtain ⟨hc, hk⟩ := hp
    have hc : w c + 1 ≤ n := hc
    have hcall : ∀ _ : Unit, (Prog.call (S := S.sum T) (.inl c) fun r =>
        (k r).inline g).Within (fun _ => 1) (n - w c) := by
      intro _
      refine ⟨Nat.le_sub_of_add_le' hc, ?_⟩
      intro r
      rw [Nat.sub_sub]
      exact ih r (hk r)
    have hsum : n = w c + (n - w c) := (Nat.add_sub_of_le (Nat.le_of_succ_le hc)).symm
    rw [hsum]
    exact (hg c).right.bind hcall

end Prog

/-! ## Section 2: Turns -/

/-- Whose turn a moment is. -/
def Moment.turnOf : Moment ι κ → Option ι
  | .turn i => some i
  | .change _ => none

/-- How many turns the thread `i` has in a schedule. -/
def turns [DecidableEq ι] (i : ι) (ms : List (Moment ι κ)) : Nat :=
  (ms.filterMap Moment.turnOf).count i

section turns

variable [DecidableEq ι]

theorem turns_change (i : ι) (k : κ) (ms : List (Moment ι κ)) :
    turns i (.change k :: ms) = turns i ms := rfl

theorem turns_self (i : ι) (ms : List (Moment ι κ)) :
    turns i (.turn i :: ms) = turns i ms + 1 := List.count_cons_self

theorem turns_ne {i j : ι} (hij : j ≠ i) (ms : List (Moment ι κ)) :
    turns i (.turn j :: ms) = turns i ms := List.count_cons_of_ne hij

end turns

namespace Pool

variable [DecidableEq ι]

/-- A thread that has not finished made a call at each of its turns. -/
theorem run_turns (h : Handler S σ) (e : κ → σ → σ) (ms : List (Moment ι κ))
    (x : Pool S ι σ α) (i : ι) :
    (∃ a, (x.run h e ms).2.threads i = .pure a) ∨
      (part i (x.run h e ms).1).length = turns i ms := by
  induction ms generalizing x with
  | nil => exact Or.inr rfl
  | cons m ms ih =>
    cases m with
    | change k =>
      rw [run_change, turns_change]
      exact ih { x with state := e k x.state }
    | turn j =>
      by_cases hji : j = i
      · subst hji
        cases hj : x.threads j with
        | pure a =>
          -- it has finished already
          have hmakes := run_makes h e (.turn j :: ms) x j
          rw [hj] at hmakes
          exact Or.inl ⟨a, hmakes.of_pure.2⟩
        | call c k =>
          rw [run_turn, turn_of_call h hj, turns_self]
          refine (ih _).imp_right ?_
          intro hlength
          rw [List.singleton_append, part_cons_self, List.length_cons, hlength]
      · rw [run_turn, turns_ne hji]
        cases hj : x.threads j with
        | pure a =>
          rw [turn_of_pure h hj]
          exact ih x
        | call c k =>
          rw [turn_of_call h hj, List.singleton_append, part_cons_ne hji]
          exact ih _

/-- **Progress.** A thread that has had as many turns as its program can make
    calls has finished, whatever the others did and however the environment
    changed. -/
theorem run_finished (h : Handler S σ) (e : κ → σ → σ) (ms : List (Moment ι κ))
    (x : Pool S ι σ α) (i : ι) {n : Nat} (hi : (x.threads i).Within (fun _ => 1) n)
    (hms : n ≤ turns i ms) : ∃ a, (x.run h e ms).2.threads i = .pure a := by
  rcases run_turns h e ms x i with hdone | hlength
  · exact hdone
  · have hleft := hi.makes (run_makes h e ms x i)
    rw [hlength, Nat.sub_eq_zero_of_le hms] at hleft
    cases hq : (x.run h e ms).2.threads i with
    | pure a => exact ⟨a, rfl⟩
    | call c k =>
      rw [hq] at hleft
      exact absurd hleft.1 (Nat.not_succ_le_zero 0)

end Pool

end Interaction
