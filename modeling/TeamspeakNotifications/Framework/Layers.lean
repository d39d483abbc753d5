import TeamspeakNotifications.Framework.Interleaving

/-! # Programs with a layer below

    Some calls of a program are functions of a layer below it: they do something
    in an environment of their own before they return. Written out, the program
    makes the calls of both layers.

    * `Sig.sum`, `lefts`, `rights`: two environments, and what happens in each.
    * `Prog.inline`: a program with the layer below written out.
    * `Prog.Blocks`: what the lower layer does for a sequence of calls of the
      upper one.
    * `inline_makes`: in any run of the whole, the upper layer makes calls that
      the program makes by itself, and the lower one does for each of them what
      it is there for.
-/

namespace Interaction

variable {S T : Sig} {α β : Type}

/-! ## Section 1: Two environments -/

/-- The calls of both. -/
def Sig.sum (S T : Sig) : Sig := ⟨S.Call ⊕ T.Call, Sum.elim S.Answer T.Answer⟩

/-- The event, if it is one of the upper layer. -/
def Event.left? : Event (S.sum T) → Option (Event S)
  | ⟨.inl c, r⟩ => some ⟨c, r⟩
  | ⟨.inr _, _⟩ => none

/-- The event, if it is one of the lower layer. -/
def Event.right? : Event (S.sum T) → Option (Event T)
  | ⟨.inl _, _⟩ => none
  | ⟨.inr c, r⟩ => some ⟨c, r⟩

/-- What happens in the upper layer. -/
def lefts (t : List (Event (S.sum T))) : List (Event S) := t.filterMap Event.left?

/-- What happens in the lower layer. -/
def rights (t : List (Event (S.sum T))) : List (Event T) := t.filterMap Event.right?

/-- What an event of the whole means if only the upper layer means something. -/
def onLeft {γ : Type} (f : Event S → List γ) (e : Event (S.sum T)) : List γ :=
  e.left?.elim [] f

theorem flatMap_onLeft {γ : Type} (f : Event S → List γ) (t : List (Event (S.sum T))) :
    t.flatMap (onLeft f) = (lefts t).flatMap f := by
  induction t with
  | nil => rfl
  | cons e t ih =>
    rw [List.flatMap_cons, ih]
    unfold onLeft lefts
    rw [List.filterMap_cons]
    cases e.left? with
    | none => rfl
    | some e' => rfl

/-- A program of the lower layer. -/
def Prog.right : Prog T α → Prog (S.sum T) α
  | .pure a => .pure a
  | .call c k => .call (.inr c) (fun r => (k r).right)

/-- The program with `g` written out: before a call `c` returns, `g c` is done in
    the lower layer. -/
def Prog.inline (g : S.Call → Prog T Unit) : Prog S α → Prog (S.sum T) α
  | .pure a => .pure a
  | .call c k => (g c).right >>= fun _ => .call (.inl c) (fun r => (k r).inline g)

/-! ## Section 2: What a program makes -/

theorem Prog.Makes.of_nil {p q : Prog S α} (h : p.Makes [] q) : q = p := by
  cases h
  rfl

theorem Prog.Makes.of_pure {a : α} {t : List (Event S)} {q : Prog S α}
    (h : (Prog.pure a).Makes t q) : t = [] ∧ q = .pure a := by
  cases h
  exact ⟨rfl, rfl⟩

theorem Prog.Makes.of_call {c : S.Call} {k : S.Answer c → Prog S α} {e : Event S}
    {t : List (Event S)} {q : Prog S α} (h : (Prog.call c k).Makes (e :: t) q) :
    ∃ r, e = ⟨c, r⟩ ∧ (k r).Makes t q := by
  cases h with
  | call h => exact ⟨_, rfl, h⟩

/-- A program that has returned has made its first call. -/
theorem Prog.Makes.first {c : S.Call} {k : S.Answer c → Prog S α} {t : List (Event S)} {a : α}
    (h : (Prog.call c k).Makes t (.pure a)) :
    ∃ r u, t = ⟨c, r⟩ :: u ∧ (k r).Makes u (.pure a) := by
  cases t with
  | nil => exact absurd h.of_nil (by intro h; cases h)
  | cons e u =>
    obtain ⟨r, rfl, hrest⟩ := h.of_call
    exact ⟨r, u, rfl, hrest⟩

theorem Prog.Makes.of_bind {p : Prog S α} {f : α → Prog S β} {t : List (Event S)} {b : β}
    (h : (p >>= f).Makes t (.pure b)) :
    ∃ u v a, t = u ++ v ∧ p.Makes u (.pure a) ∧ (f a).Makes v (.pure b) := by
  induction p generalizing t with
  | pure a => exact ⟨[], t, a, rfl, .nil _, h⟩
  | call c k ih =>
    obtain ⟨r, t, rfl, hrest⟩ := h.first
    obtain ⟨u, v, a, rfl, hu, hv⟩ := ih r hrest
    exact ⟨⟨c, r⟩ :: u, v, a, rfl, .call hu, hv⟩

/-- For every call of `u` in turn, the lower layer does all of what is there for
    it. -/
inductive Blocks (g : S.Call → Prog T Unit) : List (Event S) → List (Event T) → Prop where
  | nil : Blocks g [] []
  | cons {e : Event S} {u : List (Event S)} {b v : List (Event T)}
      (here : (g e.call).Makes b (.pure ())) (rest : Blocks g u v) : Blocks g (e :: u) (b ++ v)

/-! ## Section 3: Both layers -/

section inline

variable {g : S.Call → Prog T Unit}

/-- What is left of the whole while `r` of the lower layer is still to be done
    for the call `c`. -/
def inlineRest (g : S.Call → Prog T Unit) (c : S.Call) (k : S.Answer c → Prog S α)
    (r : Prog T Unit) : Prog (S.sum T) α :=
  r.right >>= fun _ => .call (.inl c) (fun x => (k x).inline g)

theorem inline_call (c : S.Call) (k : S.Answer c → Prog S α) :
    (Prog.call c k).inline g = inlineRest g c k (g c) := rfl

/-- The upper layer of a run, by induction on the run: the lower layer is either
    done with the call `c` or still at it. -/
theorem inlineRest_makes {t : List (Event (S.sum T))} {c : S.Call} {k : S.Answer c → Prog S α}
    {r : Prog T Unit} {q : Prog (S.sum T) α} (h : (inlineRest g c k r).Makes t q) :
    ∃ p, (Prog.call c k).Makes (lefts t) p ∧ ∀ a, q = .pure a → p = .pure a ∧
      ∃ b v, rights t = b ++ v ∧ r.Makes b (.pure ()) ∧
        ∃ e u, lefts t = e :: u ∧ e.call = c ∧ Blocks g u v := by
  induction t generalizing c k r q with
  | nil =>
    obtain rfl := h.of_nil
    refine ⟨.call c k, .nil _, ?_⟩
    intro a ha
    -- with the call still to come, it has not finished
    cases r with
    | pure _ => exact absurd ha (by intro h; cases h)
    | call d k' => exact absurd ha (by intro h; cases h)
  | cons e t ih =>
    cases r with
    | pure x =>
      -- the call of the upper layer returns
      obtain ⟨y, rfl, hrest⟩ := Prog.Makes.of_call h
      cases hk : k y with
      | pure a =>
        -- it was the last one
        rw [hk] at hrest
        obtain ⟨rfl, rfl⟩ := hrest.of_pure
        refine ⟨.pure a, .call (hk ▸ .nil _), ?_⟩
        intro a' ha'
        cases ha'
        exact ⟨rfl, [], [], rfl, .nil _, ⟨c, y⟩, [], rfl, rfl, .nil⟩
      | call c' k' =>
        rw [hk, inline_call] at hrest
        obtain ⟨p, hp, hdone⟩ := ih hrest
        refine ⟨p, .call (hk ▸ hp), ?_⟩
        intro a ha
        obtain ⟨hpa, b, v, hbv, hb, e', u, hlefts, rfl, hblocks⟩ := hdone a ha
        refine ⟨hpa, [], b ++ v, hbv, .nil _, ⟨c, y⟩, e' :: u, congrArg _ hlefts, rfl, ?_⟩
        exact .cons hb hblocks
    | call d k' =>
      -- the lower layer goes on
      obtain ⟨y, rfl, hrest⟩ := Prog.Makes.of_call h
      obtain ⟨p, hp, hdone⟩ := ih (r := k' y) hrest
      refine ⟨p, hp, ?_⟩
      intro a ha
      obtain ⟨hpa, b, v, hbv, hb, hlefts⟩ := hdone a ha
      exact ⟨hpa, ⟨d, y⟩ :: b, v, congrArg _ hbv, .call hb, hlefts⟩

/-- **Layers.** In a run of the whole, what happens in the upper layer is what
    the program makes by itself. If it has finished, then so has the program, and
    the lower layer has done its part for every call. -/
theorem inline_makes {p : Prog S α} {t : List (Event (S.sum T))} {q : Prog (S.sum T) α}
    (h : (p.inline g).Makes t q) :
    ∃ p', p.Makes (lefts t) p' ∧
      ∀ a, q = .pure a → p' = .pure a ∧ Blocks g (lefts t) (rights t) := by
  cases p with
  | pure a =>
    obtain ⟨rfl, rfl⟩ := Prog.Makes.of_pure h
    exact ⟨.pure a, .nil _, fun a' ha' => ⟨by cases ha'; rfl, .nil⟩⟩
  | call c k =>
    rw [inline_call] at h
    obtain ⟨p', hp', hdone⟩ := inlineRest_makes h
    refine ⟨p', hp', ?_⟩
    intro a ha
    obtain ⟨hpa, b, v, hbv, hb, e, u, hlefts, rfl, hblocks⟩ := hdone a ha
    rw [hlefts, hbv]
    exact ⟨hpa, .cons hb hblocks⟩

end inline

end Interaction
