import TeamspeakNotifications.Model.System

/-! # Schedules that do not matter

    While nothing moves on the server, the library gives the same answer to the
    same question. Then it does not matter how callbacks overlap: each of them
    does what it does alone, and together they request what they request one
    after the other.

    * `AtRest`: what the library answers does not depend on when it is asked. The
      desktop may change all the time.
    * `thread_at_rest`: one of the callbacks.
    * `requests_any_schedule`: all of them.
-/

namespace TeamspeakNotifications

open Interaction CLib

section rest

variable {σ κ : Type} {n : Nat}

/-- The library of the whole answers as `L` does. -/
def AtRest (H : Handler SystemSig σ) (L : ClientLib) : Prop :=
  ∀ (c : Call) (s : σ), (H (.inl c) s).1 = L.answer c

variable {H : Handler SystemSig σ} {L : ClientLib} (hrest : AtRest H L) (e : κ → σ → σ)
  (threads : Fin n → Thread) (ms : List (Moment (Fin n) κ)) (s : σ)
include hrest

/-- What a callback is answered among others is what it is answered alone. -/
theorem libraryTrace_answers (i : Fin n) :
    ∀ ev ∈ libraryTrace H e threads ms s i, L.answer ev.call = ev.answer := by
  intro ev hev
  obtain ⟨w, hw, hleft⟩ := List.mem_filterMap.mp hev
  obtain ⟨r, hr, rfl⟩ := List.mem_map.mp hw
  obtain ⟨s', hs'⟩ := Pool.run_answers H e ms ⟨fun i => (threads i).program, s⟩ r
    (List.mem_filter.mp hr).1
  obtain ⟨j, c, x⟩ := r
  cases c with
  | inl c =>
    -- answered in the state of that moment, which makes no difference
    cases hleft
    exact (hrest c s').symm.trans hs'
  | inr c => cases hleft

theorem thread_at_rest (i : Fin n) :
    libraryTrace H e threads ms s i <+: ((threads i).activation.serve L.handler ()).trace ∧
      (Returned H e threads ms s i →
        libraryTrace H e threads ms s i =
          ((threads i).activation.serve L.handler ()).trace) := by
  obtain ⟨p, hp, hdone⟩ := thread_makes H e threads ms s i
  obtain ⟨s', htrace⟩ := hp.run_trace (h := L.handler)
    (fun ev hev _ => libraryTrace_answers hrest e threads ms s i ev hev) ()
  refine ⟨⟨_, htrace.symm⟩, ?_⟩
  intro hreturned
  obtain ⟨⟨res, rfl⟩, -⟩ := hdone hreturned
  exact (htrace.trans (List.append_nil _)).symm

omit hrest in
theorem runCallbacks_at_rest (L : ClientLib) (acts : List Activation) :
    runCallbacks L.handler acts () = acts.map fun a => a.serve L.handler () := by
  induction acts with
  | nil => rfl
  | cons a acts ih => exact congrArg _ ih

/-- **Any schedule.** Against a library at rest, no callback ever does anything
    that it does not do alone; and once all have returned, they have requested
    what they request when they are served one after the other, in any order. -/
theorem requests_any_schedule :
    (∀ i, libraryTrace H e threads ms s i <+:
      ((threads i).activation.serve L.handler ()).trace) ∧
    ((∀ i, Returned H e threads ms s i) → ∀ order : List (Fin n),
      order.Perm (List.finRange n) →
        (requests (lefts ((overlapping H e threads ms s).1.map Prod.snd))).Perm
          ((runCallbacks L.handler (order.map fun i => (threads i).activation) ()).flatMap
            fun st => requests st.trace)) := by
  refine ⟨fun i => (thread_at_rest hrest e threads ms s i).1, ?_⟩
  intro hreturned order horder
  -- the record is all callbacks' parts, in whatever order these are taken
  have hall := perm_parts (horder.nodup_iff.mpr (List.nodup_finRange n))
    (r := (overlapping H e threads ms s).1) fun a _ => horder.mem_iff.mpr (List.mem_finRange a.1)
  have hrequests := ((hall.filterMap Event.left?).filterMap requestOf).symm
  rw [List.filterMap_flatMap, List.filterMap_flatMap] at hrequests
  refine hrequests.trans (List.Perm.of_eq ?_)
  rw [runCallbacks_at_rest, List.map_map, List.flatMap_map]
  apply List.flatMap_congr
  intro i _
  exact congrArg requests ((thread_at_rest hrest e threads ms s i).2 (hreturned i))

end rest

set_option maxRecDepth 4000 in
/-- The lobby is at rest. The message may just as well come first. -/
theorem requests_any_schedule_lobby :
    (requests (lefts ((overlapping lobbyDesktop (fun _ s => s) moveAndMessage
        inTurns ()).1.map Prod.snd))).Perm
      ((runCallbacks (answering fun _ => lobby).handler
        ([1, 0].map fun i => (moveAndMessage i).activation) ()).flatMap
          fun st => requests st.trace) :=
  (requests_any_schedule (fun _ _ => rfl) (fun _ s => s) moveAndMessage inTurns ()).2
    returned_moveAndMessage [1, 0] (List.Perm.swap 0 1 [])

end TeamspeakNotifications
