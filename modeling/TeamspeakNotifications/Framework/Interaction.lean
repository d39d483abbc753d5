import Mathlib.Data.List.Basic

/-! # Interaction programs

    A program that does nothing but call functions of its environment and
    react to their answers is a tree: a `call` node names the function and its
    arguments, and has one subtree for every possible answer.

    This module provides, over an arbitrary signature of calls:

    * `Prog`: the trees, with sequencing (`Monad`, `LawfulMonad`).
    * `Handler` and `Prog.run`: running a program against an environment that
      has a state of its own. A run yields the result, the environment's state
      and the trace of calls with their answers.
    * `Prog.Calls`: a bound on the calls a program can make, whatever the
      answers are.
    * `Prog.Similar`: two programs that make the same calls as long as the
      answers they get are related.
    * `run_similar`, `Calls.run_agree`, `Calls.run_preserves`: what these say
      about runs.
-/

namespace Interaction

/-- A signature: the calls, and for each call the type of its answer. -/
structure Sig where
  Call : Type
  Answer : Call → Type

/-- Programs over the calls of `S`. -/
inductive Prog (S : Sig) (α : Type) where
  | pure (a : α)
  | call (c : S.Call) (k : S.Answer c → Prog S α)

/-- A call together with the answer it got. -/
structure Event (S : Sig) where
  call : S.Call
  answer : S.Answer call

/-- An environment with states `σ`: it answers a call and moves on. -/
abbrev Handler (S : Sig) (σ : Type) := (c : S.Call) → σ → S.Answer c × σ

/-- What a run leaves: the result, the environment's state, the trace. -/
structure Outcome (S : Sig) (σ α : Type) where
  value : α
  state : σ
  trace : List (Event S)

variable {S : Sig} {σ τ α β γ : Type}

namespace Prog

/-! ## Section 1: Sequencing -/

/-- Graft `f` onto the leaves of a program. -/
def bind : Prog S α → (α → Prog S β) → Prog S β
  | .pure a, f => f a
  | .call c k, f => .call c (fun r => (k r).bind f)

/-- The program that makes one call and returns its answer. -/
def perform (c : S.Call) : Prog S (S.Answer c) := .call c .pure

instance : Monad (Prog S) where
  pure := Prog.pure
  bind := Prog.bind

/-- A statement under a condition, with nothing to do otherwise. -/
def when (b : Prop) [Decidable b] (p : Prog S Unit) : Prog S Unit :=
  if b then p else Pure.pure ()

theorem call_bind (c : S.Call) (k : S.Answer c → Prog S α) (f : α → Prog S β) :
    (Prog.call c k) >>= f = Prog.call c (fun r => k r >>= f) := rfl

theorem bind_pure' (p : Prog S α) : p.bind Prog.pure = p := by
  induction p with
  | pure a => rfl
  | call c k ih =>
    show Prog.call c (fun r => (k r).bind Prog.pure) = Prog.call c k
    exact congrArg _ (funext ih)

theorem bind_assoc' (p : Prog S α) (f : α → Prog S β) (g : β → Prog S γ) :
    (p.bind f).bind g = p.bind (fun a => (f a).bind g) := by
  induction p with
  | pure a => rfl
  | call c k ih =>
    show Prog.call c (fun r => ((k r).bind f).bind g)
      = Prog.call c (fun r => (k r).bind (fun a => (f a).bind g))
    exact congrArg _ (funext ih)

instance : LawfulMonad (Prog S) :=
  LawfulMonad.mk' _ bind_pure' (fun _ _ => rfl) bind_assoc'

/-! ## Section 2: Runs -/

/-- Run a program against the environment `h`, from the state `s`. -/
def run (h : Handler S σ) : Prog S α → σ → Outcome S σ α
  | .pure a, s => ⟨a, s, []⟩
  | .call c k, s =>
    let next := (k (h c s).1).run h (h c s).2
    ⟨next.value, next.state, ⟨c, (h c s).1⟩ :: next.trace⟩

@[simp] theorem run_pure (h : Handler S σ) (a : α) (s : σ) :
    (Pure.pure a : Prog S α).run h s = ⟨a, s, []⟩ := rfl

@[simp] theorem run_call (h : Handler S σ) (c : S.Call)
    (k : S.Answer c → Prog S α) (s : σ) :
    (Prog.call c k).run h s =
      ⟨((k (h c s).1).run h (h c s).2).value,
       ((k (h c s).1).run h (h c s).2).state,
       ⟨c, (h c s).1⟩ :: ((k (h c s).1).run h (h c s).2).trace⟩ := rfl

/-- A sequence runs its parts one after the other. -/
@[simp] theorem run_bind (h : Handler S σ) (p : Prog S α) (f : α → Prog S β) (s : σ) :
    (p >>= f).run h s =
      ⟨((f (p.run h s).value).run h (p.run h s).state).value,
       ((f (p.run h s).value).run h (p.run h s).state).state,
       (p.run h s).trace ++ ((f (p.run h s).value).run h (p.run h s).state).trace⟩ := by
  induction p generalizing s with
  | pure a => rfl
  | call c k ih => rw [call_bind, run_call, run_call, ih]; rfl

theorem when_pos {b : Prop} [Decidable b] (hb : b) (p : Prog S Unit) :
    when b p = p := if_pos hb

theorem when_neg {b : Prop} [Decidable b] (hb : ¬ b) (p : Prog S Unit) :
    when b p = Pure.pure () := if_neg hb

@[simp] theorem when_true (p : Prog S Unit) : when True p = p := rfl

@[simp] theorem when_false (p : Prog S Unit) : when False p = Pure.pure () := rfl

/-! ## Section 3: Bounds on the calls of a program -/

/-- Every call the program can make, whatever the answers, satisfies `P`. -/
def Calls (P : S.Call → Prop) : Prog S α → Prop
  | .pure _ => True
  | .call c k => P c ∧ ∀ r, (k r).Calls P

section calls
variable {P : S.Call → Prop}

@[simp] theorem calls_pure (a : α) : (Pure.pure a : Prog S α).Calls P := trivial

@[simp] theorem calls_perform (c : S.Call) : (perform c).Calls P ↔ P c := by
  simp [perform, Calls]

theorem Calls.bind {p : Prog S α} {f : α → Prog S β} (hp : p.Calls P)
    (hf : ∀ a, (f a).Calls P) : (p >>= f).Calls P := by
  induction p with
  | pure a => exact hf a
  | call c k ih => exact ⟨hp.1, fun r => ih r (hp.2 r)⟩

theorem Calls.when {b : Prop} [Decidable b] {p : Prog S Unit} (hp : p.Calls P) :
    (when b p).Calls P := by
  by_cases hb : b
  · rw [when_pos hb]; exact hp
  · rw [when_neg hb]; trivial

theorem Calls.mono {Q : S.Call → Prop} (hPQ : ∀ c, P c → Q c) {p : Prog S α}
    (hp : p.Calls P) : p.Calls Q := by
  induction p with
  | pure a => trivial
  | call c k ih => exact ⟨hPQ c hp.1, fun r => ih r (hp.2 r)⟩

/-- The calls of a run are among the calls the program can make. -/
theorem Calls.run_trace {p : Prog S α} (hp : p.Calls P) (h : Handler S σ) (s : σ) :
    ∀ e ∈ (p.run h s).trace, P e.call := by
  induction p generalizing s with
  | pure a => intro e he; cases he
  | call c k ih =>
    intro e he
    rcases List.mem_cons.mp he with rfl | he
    · exact hp.1
    · exact ih _ (hp.2 _) _ e he

/-- A property of the environment's state that the program's calls keep is
    kept by its runs. -/
theorem Calls.run_preserves {p : Prog S α} (hp : p.Calls P) {h : Handler S σ}
    (I : σ → Prop) (hstep : ∀ c s, P c → I s → I (h c s).2) (s : σ) (hs : I s) :
    I (p.run h s).state := by
  induction p generalizing s with
  | pure a => exact hs
  | call c k ih => exact ih _ (hp.2 _) _ (hstep c s hp.1 hs)

/-- Two environments that answer the program's calls alike, in states related
    by `R`, give it the same result and the same trace. -/
theorem Calls.run_agree {p : Prog S α} (hp : p.Calls P) {h : Handler S σ}
    {h' : Handler S τ} (R : σ → τ → Prop)
    (hstep : ∀ c s t, P c → R s t →
      (h c s).1 = (h' c t).1 ∧ R (h c s).2 (h' c t).2)
    (s : σ) (t : τ) (hR : R s t) :
    (p.run h s).value = (p.run h' t).value ∧
      (p.run h s).trace = (p.run h' t).trace ∧
      R (p.run h s).state (p.run h' t).state := by
  induction p generalizing s t with
  | pure a => exact ⟨rfl, rfl, hR⟩
  | call c k ih =>
    obtain ⟨hanswer, hR'⟩ := hstep c s t hp.1 hR
    obtain ⟨hvalue, htrace, hstate⟩ := ih (h c s).1 (hp.2 _) (h c s).2 (h' c t).2 hR'
    simp only [run_call, ← hanswer]
    exact ⟨hvalue, by rw [htrace], hstate⟩

end calls

/-! ## Section 4: Programs that cannot tell related answers apart -/

/-- `p` and `q` make the same calls as long as the answers they get are
    related by `E`, and then return results related by `V`. -/
def Similar (E : (c : S.Call) → S.Answer c → S.Answer c → Prop) (V : α → β → Prop) :
    Prog S α → Prog S β → Prop
  | .pure a, .pure b => V a b
  | .call c k, .call c' k' =>
    ∃ hc : c = c', ∀ r r', E c r r' → (k r).Similar E V (k' (hc ▸ r'))
  | .pure _, .call _ _ => False
  | .call _ _, .pure _ => False

section similar
variable {E : (c : S.Call) → S.Answer c → S.Answer c → Prop}

theorem similar_pure {V : α → β → Prop} {a : α} {b : β} (hV : V a b) :
    (Pure.pure a : Prog S α).Similar E V (Pure.pure b) := hV

theorem similar_call {V : α → β → Prop} {c : S.Call} {k : S.Answer c → Prog S α}
    {k' : S.Answer c → Prog S β} (hk : ∀ r r', E c r r' → (k r).Similar E V (k' r')) :
    (Prog.call c k).Similar E V (Prog.call c k') := ⟨rfl, hk⟩

theorem Similar.bind {V : α → α → Prop} {W : β → β → Prop} {p q : Prog S α}
    {f g : α → Prog S β} (hpq : p.Similar E V q)
    (hfg : ∀ a b, V a b → (f a).Similar E W (g b)) :
    (p >>= f).Similar E W (q >>= g) := by
  induction p generalizing q with
  | pure a =>
    cases q with
    | pure b => exact hfg a b hpq
    | call c k => exact hpq.elim
  | call c k ih =>
    cases q with
    | pure b => exact hpq.elim
    | call c' k' =>
      obtain ⟨hc, hk⟩ := hpq
      subst hc
      exact similar_call fun r r' hr => ih r (hk r r' hr)

/-- Runs of similar programs, against environments whose answers are related:
    the same calls in the same order, related answers and related results. -/
theorem run_similar {V : α → β → Prop} {p : Prog S α} {q : Prog S β}
    (hpq : p.Similar E V q) {h h' : Handler S σ}
    (hh : ∀ c s, E c (h c s).1 (h' c s).1 ∧ (h c s).2 = (h' c s).2) (s : σ) :
    (p.run h s).trace.map Event.call = (q.run h' s).trace.map Event.call ∧
      V (p.run h s).value (q.run h' s).value ∧
      (p.run h s).state = (q.run h' s).state := by
  induction p generalizing q s with
  | pure a =>
    cases q with
    | pure b => exact ⟨rfl, hpq, rfl⟩
    | call c k => exact hpq.elim
  | call c k ih =>
    cases q with
    | pure b => exact hpq.elim
    | call c' k' =>
      obtain ⟨hc, hk⟩ := hpq
      subst hc
      obtain ⟨hE, hstate⟩ := hh c s
      obtain ⟨htrace, hvalue, hfinal⟩ := ih _ (hk _ _ hE) (h c s).2
      simp only [run_call, List.map_cons, ← hstate]
      exact ⟨by rw [htrace], hvalue, hfinal⟩

end similar

end Prog

end Interaction
