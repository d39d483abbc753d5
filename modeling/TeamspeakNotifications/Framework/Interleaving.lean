import Mathlib.Data.List.Perm.Basic
import Mathlib.Logic.Function.Basic
import TeamspeakNotifications.Framework.Interaction

/-! # Interaction programs side by side

    Several programs run at the same time against one environment. They take
    turns call by call, and the environment may change by itself between any two
    calls. A schedule says what comes next.

    * `Moment`, `Pool`, `Pool.run`: a pool of threads and its runs.
    * `Prog.Makes`: the calls a program makes, given the answers.
    * `Pool.run_makes`, `Makes.run_replay`, `Makes.run_trace`: what a thread does
      in a pool it also does alone, against an environment that gives it the same
      answers.
    * `Separates`, `Pool.run_group`: a group of threads that the others cannot
      touch runs as if the others were not there.
-/

namespace Interaction

variable {S : Sig} {ι κ σ τ α β γ : Type}

/-! ## Section 1: Records with owners -/

/-- The entries of the owner `i`. -/
def part [DecidableEq ι] (i : ι) (r : List (ι × β)) : List β :=
  (r.filter fun e => e.1 = i).map Prod.snd

section part

variable [DecidableEq ι]

@[simp] theorem part_nil (i : ι) : part i ([] : List (ι × β)) = [] := rfl

@[simp] theorem part_append (i : ι) (r r' : List (ι × β)) :
    part i (r ++ r') = part i r ++ part i r' := by
  unfold part
  rw [List.filter_append, List.map_append]

theorem part_cons_self (i : ι) (b : β) (r : List (ι × β)) :
    part i ((i, b) :: r) = b :: part i r := by
  unfold part
  rw [List.filter_cons_of_pos (by simp)]
  rfl

theorem part_cons_ne {i j : ι} (hij : j ≠ i) (b : β) (r : List (ι × β)) :
    part i ((j, b) :: r) = part i r := by
  unfold part
  rw [List.filter_cons_of_neg (by simpa using hij)]

theorem part_map_self (i : ι) (l : List β) : part i (l.map (Prod.mk i)) = l := by
  induction l with
  | nil => rfl
  | cons b l ih => rw [List.map_cons, part_cons_self, ih]

theorem part_map_ne {i j : ι} (hij : j ≠ i) (l : List β) : part i (l.map (Prod.mk j)) = [] := by
  induction l with
  | nil => rfl
  | cons b l ih => rw [List.map_cons, part_cons_ne hij, ih]

/-- What the entries mean, with the same owners. -/
def tagged (f : β → List γ) (r : List (ι × β)) : List (ι × γ) :=
  r.flatMap fun e => (f e.2).map (Prod.mk e.1)

theorem part_tagged (f : β → List γ) (i : ι) (r : List (ι × β)) :
    part i (tagged f r) = (part i r).flatMap f := by
  induction r with
  | nil => rfl
  | cons e r ih =>
    obtain ⟨j, b⟩ := e
    have hcons : tagged f ((j, b) :: r) = (f b).map (Prod.mk j) ++ tagged f r := rfl
    rw [hcons, part_append, ih]
    by_cases hji : j = i
    · -- an entry of the owner
      subst hji
      rw [part_map_self, part_cons_self]
      rfl
    · rw [part_map_ne hji, part_cons_ne hji]
      rfl

/-! What all owners together have. -/

section owners

variable {is : List ι}

/-- What one owner has, and what the others have. -/
theorem perm_update (hn : is.Nodup) {i : ι} (hi : i ∈ is) (xs : ι → List β) (l : List β) :
    (is.flatMap (Function.update xs i l)).Perm (l ++ (is.erase i).flatMap xs) := by
  -- no other owner's list has changed
  have hothers : (is.erase i).flatMap (Function.update xs i l) = (is.erase i).flatMap xs := by
    apply List.flatMap_congr
    intro j hj
    have hji : j ≠ i := fun heq => hn.not_mem_erase (heq ▸ hj)
    exact Function.update_of_ne hji ..
  have hsplit := (List.perm_cons_erase hi).flatMap_right (Function.update xs i l)
  rw [List.flatMap_cons, hothers, Function.update_self] at hsplit
  exact hsplit

theorem perm_owner (hn : is.Nodup) {i : ι} (hi : i ∈ is) (xs : ι → List β) :
    (is.flatMap xs).Perm (xs i ++ (is.erase i).flatMap xs) := by
  have h := perm_update hn hi xs (xs i)
  rw [Function.update_eq_self] at h
  exact h

/-- The entries of all owners are all entries. -/
theorem perm_parts (hn : is.Nodup) {r : List (ι × β)} (hr : ∀ e ∈ r, e.1 ∈ is) :
    (is.flatMap fun i => part i r).Perm (r.map Prod.snd) := by
  induction r with
  | nil =>
    have hnone : (is.flatMap fun i => part i ([] : List (ι × β))) = [] :=
      List.flatMap_eq_nil_iff.mpr fun _ _ => rfl
    rw [hnone]
    exact List.Perm.refl _
  | cons e r ih =>
    obtain ⟨i, b⟩ := e
    have hi : i ∈ is := hr _ List.mem_cons_self
    have hrest := ih fun e he => hr e (List.mem_cons_of_mem _ he)
    -- the first entry goes to its owner's part
    have hhere : (fun j => part j ((i, b) :: r)) =
        Function.update (fun j => part j r) i (b :: part i r) := by
      funext j
      by_cases hji : j = i
      · subst hji
        rw [part_cons_self, Function.update_self]
      · rw [part_cons_ne (Ne.symm hji), Function.update_of_ne hji]
    rw [hhere]
    have howner := perm_owner hn hi fun j => part j r
    exact (perm_update hn hi _ _).trans ((howner.symm.trans hrest).cons b)

end owners

end part

/-! ## Section 2: Pools of threads -/

/-- The thread `i` makes its next call, or the environment changes. -/
inductive Moment (ι κ : Type) where
  | turn (i : ι)
  | change (x : κ)

/-- The threads, as far as they have come, and the environment's state. -/
structure Pool (S : Sig) (ι σ α : Type) where
  threads : ι → Prog S α
  state : σ

namespace Pool

variable [DecidableEq ι]

/-- A turn of the thread `i`. Nothing happens if it has finished. -/
def turn (h : Handler S σ) (i : ι) (x : Pool S ι σ α) : List (ι × Event S) × Pool S ι σ α :=
  match x.threads i with
  | .pure _ => ([], x)
  | .call c k =>
    ([(i, ⟨c, (h c x.state).1⟩)],
      ⟨Function.update x.threads i (k (h c x.state).1), (h c x.state).2⟩)

/-- One moment; `e` says what the changes of the environment are. -/
def step (h : Handler S σ) (e : κ → σ → σ) :
    Moment ι κ → Pool S ι σ α → List (ι × Event S) × Pool S ι σ α
  | .turn i, x => x.turn h i
  | .change k, x => ([], { x with state := e k x.state })

/-- Run a pool along a schedule: the calls, each with the thread that made it
    and with its answer, and the pool that is left. -/
def run (h : Handler S σ) (e : κ → σ → σ) :
    List (Moment ι κ) → Pool S ι σ α → List (ι × Event S) × Pool S ι σ α
  | [], x => ([], x)
  | m :: ms, x =>
    ((x.step h e m).1 ++ (run h e ms (x.step h e m).2).1, (run h e ms (x.step h e m).2).2)

theorem run_turn (h : Handler S σ) (e : κ → σ → σ) (i : ι) (ms : List (Moment ι κ))
    (x : Pool S ι σ α) :
    x.run h e (.turn i :: ms) =
      ((x.turn h i).1 ++ ((x.turn h i).2.run h e ms).1, ((x.turn h i).2.run h e ms).2) := rfl

theorem run_change (h : Handler S σ) (e : κ → σ → σ) (k : κ) (ms : List (Moment ι κ))
    (x : Pool S ι σ α) :
    x.run h e (.change k :: ms) = ({ x with state := e k x.state } : Pool S ι σ α).run h e ms :=
  rfl

theorem turn_of_pure {x : Pool S ι σ α} {i : ι} {a : α} (h : Handler S σ)
    (hi : x.threads i = .pure a) : x.turn h i = ([], x) := by
  unfold turn
  rw [hi]

theorem turn_of_call {x : Pool S ι σ α} {i : ι} {c : S.Call} {k : S.Answer c → Prog S α}
    (h : Handler S σ) (hi : x.threads i = .call c k) :
    x.turn h i = ([(i, ⟨c, (h c x.state).1⟩)],
      ⟨Function.update x.threads i (k (h c x.state).1), (h c x.state).2⟩) := by
  unfold turn
  rw [hi]

end Pool

/-! ## Section 3: One thread of a pool -/

/-- `p` makes the calls of `t`, is given their answers, and goes on as `q`. -/
inductive Prog.Makes : Prog S α → List (Event S) → Prog S α → Prop where
  | nil (p : Prog S α) : Makes p [] p
  | call {c : S.Call} {k : S.Answer c → Prog S α} {r : S.Answer c} {t : List (Event S)}
      {q : Prog S α} (h : Makes (k r) t q) : Makes (.call c k) (⟨c, r⟩ :: t) q

/-- An environment that answers as recorded, and like `h` afterwards. -/
def replay [DecidableEq S.Call] (h : Handler S σ) : Handler S (List (Event S) × σ) := fun c x =>
  match x.1 with
  | [] => ((h c x.2).1, [], (h c x.2).2)
  | e :: t =>
    if hc : e.call = c then (hc ▸ e.answer, t, x.2)
    else ((h c x.2).1, t, (h c x.2).2)

theorem replay_cons [DecidableEq S.Call] (h : Handler S σ) (c : S.Call) (r : S.Answer c)
    (t : List (Event S)) (s : σ) : replay h c (⟨c, r⟩ :: t, s) = (r, t, s) :=
  dif_pos rfl

/-- Against the replay of the answers, the program makes these calls again. -/
theorem Prog.Makes.run_replay [DecidableEq S.Call] {p q : Prog S α} {t : List (Event S)}
    (hpq : p.Makes t q) (h : Handler S σ) (s : σ) :
    (p.run (replay h) (t, s)).trace = t ++ (q.run (replay h) ([], s)).trace ∧
      (p.run (replay h) (t, s)).value = (q.run (replay h) ([], s)).value := by
  induction hpq with
  | nil p => exact ⟨rfl, rfl⟩
  | call _ ih =>
    obtain ⟨htrace, hvalue⟩ := ih
    rw [run_call, replay_cons]
    exact ⟨congrArg _ htrace, hvalue⟩

/-- Against an environment that always gives these answers, the program makes
    these calls again. -/
theorem Prog.Makes.run_trace {p q : Prog S α} {t : List (Event S)} (hpq : p.Makes t q)
    {h : Handler S σ} (hans : ∀ e ∈ t, ∀ s, (h e.call s).1 = e.answer) (s : σ) :
    ∃ s', (p.run h s).trace = t ++ (q.run h s').trace := by
  induction hpq generalizing s with
  | nil p => exact ⟨s, rfl⟩
  | @call c k r t q _ ih =>
    have hanswer : (h c s).1 = r := hans ⟨c, r⟩ List.mem_cons_self s
    obtain ⟨s', htrace⟩ := ih (fun e he => hans e (List.mem_cons_of_mem _ he)) (h c s).2
    refine ⟨s', ?_⟩
    rw [run_call, hanswer]
    exact congrArg _ htrace

namespace Pool

variable [DecidableEq ι]

/-- What a thread calls in a pool are the calls its program makes, given the
    answers. -/
theorem run_makes (h : Handler S σ) (e : κ → σ → σ) (ms : List (Moment ι κ))
    (x : Pool S ι σ α) (i : ι) :
    (x.threads i).Makes (part i (x.run h e ms).1) ((x.run h e ms).2.threads i) := by
  induction ms generalizing x with
  | nil => exact .nil _
  | cons m ms ih =>
    cases m with
    | change k =>
      rw [run_change]
      exact ih { x with state := e k x.state }
    | turn j =>
      rw [run_turn]
      cases hj : x.threads j with
      | pure a =>
        rw [turn_of_pure h hj]
        exact ih x
      | call c k =>
        rw [turn_of_call h hj]
        have hrest := ih ⟨Function.update x.threads j (k (h c x.state).1), (h c x.state).2⟩
        dsimp only at hrest ⊢
        rw [List.singleton_append]
        by_cases hij : j = i
        · -- it is the thread's own turn
          subst hij
          rw [Function.update_self] at hrest
          rw [part_cons_self, hj]
          exact .call hrest
        · rw [Function.update_of_ne (Ne.symm hij)] at hrest
          rw [part_cons_ne hij]
          exact hrest

/-- Whatever is recorded of a call is what the environment answered, in the state
    it was in then. -/
theorem run_answers (h : Handler S σ) (e : κ → σ → σ) (ms : List (Moment ι κ))
    (x : Pool S ι σ α) :
    ∀ r ∈ (x.run h e ms).1, ∃ s, (h r.2.call s).1 = r.2.answer := by
  induction ms generalizing x with
  | nil => exact fun _ hr => absurd hr List.not_mem_nil
  | cons m ms ih =>
    intro r hr
    rcases List.mem_append.mp hr with hr | hr
    · cases m with
      | change k => exact absurd hr List.not_mem_nil
      | turn i =>
        have hturn : r ∈ (x.turn h i).1 := hr
        cases hi : x.threads i with
        | pure a =>
          rw [turn_of_pure h hi] at hturn
          exact absurd hturn List.not_mem_nil
        | call c k =>
          rw [turn_of_call h hi] at hturn
          rw [List.mem_singleton.mp hturn]
          exact ⟨x.state, rfl⟩
    · exact ih _ r hr

end Pool

/-! ## Section 4: A group of threads -/

/-- Calls of the kind `P` and changes of the kind `ours` do not tell the states
    apart that `R` relates; calls of the kind `Q` and all other changes, which
    are made on one side only, leave them related. -/
structure Separates (h : Handler S σ) (h' : Handler S τ) (e : κ → σ → σ) (e' : κ → τ → τ)
    (P Q : S.Call → Prop) (ours : κ → Prop) (R : σ → τ → Prop) : Prop where
  agree : ∀ c s t, P c → R s t → (h c s).1 = (h' c t).1 ∧ R (h c s).2 (h' c t).2
  frame : ∀ c s t, Q c → R s t → R (h c s).2 t
  change : ∀ k s t, ours k → R s t → R (e k s) (e' k t)
  other : ∀ k s t, ¬ ours k → R s t → R (e k s) t

/-- A moment of the group. -/
def Moment.Concerns (mine : ι → Prop) (ours : κ → Prop) : Moment ι κ → Prop
  | .turn i => mine i
  | .change k => ours k

instance (mine : ι → Prop) [DecidablePred mine] (ours : κ → Prop) [DecidablePred ours] :
    DecidablePred (Moment.Concerns mine ours)
  | .turn i => inferInstanceAs (Decidable (mine i))
  | .change k => inferInstanceAs (Decidable (ours k))

namespace Pool

section group

variable [DecidableEq ι] {h : Handler S σ} {h' : Handler S τ} {e : κ → σ → σ} {e' : κ → τ → τ}
  {P Q : S.Call → Prop} {mine : ι → Prop} {ours : κ → Prop} {R : σ → τ → Prop}

/-- The two pools agree on the group, and the threads make calls of their kind. -/
structure Grouped (P Q : S.Call → Prop) (mine : ι → Prop) (R : σ → τ → Prop)
    (x : Pool S ι σ α) (y : Pool S ι τ α) : Prop where
  same : ∀ i, mine i → x.threads i = y.threads i
  inside : ∀ i, mine i → (x.threads i).Calls P
  outside : ∀ i, ¬ mine i → (x.threads i).Calls Q
  state : R x.state y.state

/-- A thread of the group has its turn on both sides. -/
theorem Grouped.inside_turn {x : Pool S ι σ α} {y : Pool S ι τ α}
    (sep : Separates h h' e e' P Q ours R) (hxy : Grouped P Q mine R x y) {i : ι} (hi : mine i) :
    (x.turn h i).1 = (y.turn h' i).1 ∧ Grouped P Q mine R (x.turn h i).2 (y.turn h' i).2 := by
  cases hc : x.threads i with
  | pure a =>
    have hc' : y.threads i = .pure a := (hxy.same i hi).symm.trans hc
    rw [turn_of_pure h hc, turn_of_pure h' hc']
    exact ⟨rfl, hxy⟩
  | call c k =>
    have hc' : y.threads i = .call c k := (hxy.same i hi).symm.trans hc
    have hcalls : (Prog.call c k).Calls P := hc ▸ hxy.inside i hi
    obtain ⟨hanswer, hstate⟩ := sep.agree c x.state y.state hcalls.1 hxy.state
    rw [turn_of_call h hc, turn_of_call h' hc', ← hanswer]
    refine ⟨rfl, ?_, ?_, ?_, hstate⟩
    · -- the thread has gone on in the same way on both sides
      refine (Function.forall_update_iff x.threads fun j q => mine j →
        q = Function.update y.threads i (k (h c x.state).1) j).mpr ⟨?_, ?_⟩
      · intro _
        rw [Function.update_self]
      · intro j hji hj
        rw [Function.update_of_ne hji]
        exact hxy.same j hj
    · exact (Function.forall_update_iff x.threads fun j q => mine j → q.Calls P).mpr
        ⟨fun _ => hcalls.2 _, fun j _ hj => hxy.inside j hj⟩
    · exact (Function.forall_update_iff x.threads fun j q => ¬ mine j → q.Calls Q).mpr
        ⟨fun hnot => absurd hi hnot, fun j _ hj => hxy.outside j hj⟩

/-- Another thread has its turn, on the left only. -/
theorem Grouped.outside_turn [DecidablePred mine] {x : Pool S ι σ α} {y : Pool S ι τ α}
    (sep : Separates h h' e e' P Q ours R) (hxy : Grouped P Q mine R x y) {i : ι}
    (hi : ¬ mine i) :
    (x.turn h i).1.filter (fun r => mine r.1) = [] ∧ Grouped P Q mine R (x.turn h i).2 y := by
  cases hc : x.threads i with
  | pure a =>
    rw [turn_of_pure h hc]
    exact ⟨rfl, hxy⟩
  | call c k =>
    have hcalls : (Prog.call c k).Calls Q := hc ▸ hxy.outside i hi
    rw [turn_of_call h hc]
    refine ⟨List.filter_cons_of_neg (by simpa using hi), ?_, ?_, ?_,
      sep.frame c x.state y.state hcalls.1 hxy.state⟩
    · exact (Function.forall_update_iff x.threads fun j q => mine j → q = y.threads j).mpr
        ⟨fun hmine => absurd hmine hi, fun j _ hj => hxy.same j hj⟩
    · exact (Function.forall_update_iff x.threads fun j q => mine j → q.Calls P).mpr
        ⟨fun hmine => absurd hmine hi, fun j _ hj => hxy.inside j hj⟩
    · exact (Function.forall_update_iff x.threads fun j q => ¬ mine j → q.Calls Q).mpr
        ⟨fun _ => hcalls.2 _, fun j _ hj => hxy.outside j hj⟩

/-- **Group rule.** What a group of threads does, among the others, is what it
    does without them, on a schedule of its own moments. -/
theorem run_group [DecidablePred mine] [DecidablePred ours]
    (sep : Separates h h' e e' P Q ours R) (ms : List (Moment ι κ))
    {x : Pool S ι σ α} {y : Pool S ι τ α} (hxy : Grouped P Q mine R x y) :
    (x.run h e ms).1.filter (fun r => mine r.1) =
        (y.run h' e' (ms.filter (Moment.Concerns mine ours))).1 ∧
      Grouped P Q mine R (x.run h e ms).2
        (y.run h' e' (ms.filter (Moment.Concerns mine ours))).2 := by
  induction ms generalizing x y with
  | nil => exact ⟨rfl, hxy⟩
  | cons m ms ih =>
    by_cases hm : m.Concerns mine ours
    · -- a moment of the group's, on both sides
      rw [List.filter_cons_of_pos (by simpa using hm)]
      cases m with
      | turn i =>
        obtain ⟨hrecord, hnext⟩ := hxy.inside_turn sep hm
        obtain ⟨hrest, hfinal⟩ := ih hnext
        refine ⟨?_, hfinal⟩
        -- all that is recorded of this turn is the group's
        have hall : (x.turn h i).1.filter (fun r => mine r.1) = (x.turn h i).1 := by
          apply List.filter_eq_self.mpr
          intro r hr
          cases hc : x.threads i with
          | pure a =>
            rw [turn_of_pure h hc] at hr
            exact absurd hr List.not_mem_nil
          | call c k =>
            rw [turn_of_call h hc] at hr
            rw [List.mem_singleton.mp hr]
            exact decide_eq_true hm
        show ((x.turn h i).1 ++ _).filter _ = (y.turn h' i).1 ++ _
        rw [List.filter_append, hall, hrecord]
        exact congrArg _ hrest
      | change k => exact ih ⟨hxy.same, hxy.inside, hxy.outside, sep.change k _ _ hm hxy.state⟩
    · -- a moment of the others', of which the group notices nothing
      rw [List.filter_cons_of_neg (by simpa using hm)]
      cases m with
      | turn i =>
        obtain ⟨hrecord, hnext⟩ := hxy.outside_turn sep hm
        obtain ⟨hrest, hfinal⟩ := ih hnext
        refine ⟨?_, hfinal⟩
        show ((x.turn h i).1 ++ _).filter _ = _
        rw [List.filter_append, hrecord]
        exact hrest
      | change k => exact ih ⟨hxy.same, hxy.inside, hxy.outside, sep.other k _ _ hm hxy.state⟩

end group

end Pool

end Interaction
