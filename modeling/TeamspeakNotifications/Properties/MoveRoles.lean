import TeamspeakNotifications.Model.World

/-! # Who is told that they were moved

    `onClientMoveMovedEvent` has two roles, the moved client and the mover. The
    documentation wants the own client told when it is the moved one. The
    callback compares the own ID with the mover instead.

    * `MoveTold`: what should be requested.
    * `moveTold_iff_same_roles`: it is requested exactly when the mistake does
      not show, i.e. when the own client has both roles or neither.
-/

namespace TeamspeakNotifications

open Interaction CLib

section roles

variable (w : UInt64 → Server) (S : UInt64) (u : Locals) (clientID : AnyID)
  (oldChannelID newChannelID : UInt64) (moverID : AnyID) (moverName : CString)

/-- The notifications `onClientMoveMovedEvent` requests. -/
def moveRequests : List (Notification Str) :=
  requests (Activation.serve (answering w).handler
    ⟨.onClientMoveMovedEvent S clientID oldChannelID newChannelID moverID moverName, u⟩
    ()).trace

/-- The own client is told who moved it; of another client's move, only a
    departure from the own channel and an arrival in it are reported. -/
structure MoveTold : Prop where
  own : clientID = (w S).ownID → moverID ≠ (w S).ownID →
    ∃ channel, moveRequests w S u clientID oldChannelID newChannelID moverID moverName =
      [.notify_move channel (.arg moverName)]
  no_move : clientID ≠ (w S).ownID → ∀ channel mover, .notify_move channel mover ∉
    moveRequests w S u clientID oldChannelID newChannelID moverID moverName
  leave : clientID ≠ (w S).ownID →
    ((∃ client mover, .notify_leave client mover ∈
        moveRequests w S u clientID oldChannelID newChannelID moverID moverName) ↔
      (w S).channelOf (w S).ownID = oldChannelID)
  join : clientID ≠ (w S).ownID →
    ((∃ client mover, .notify_join client mover ∈
        moveRequests w S u clientID oldChannelID newChannelID moverID moverName) ↔
      (w S).channelOf (w S).ownID = newChannelID)

/-- A move of another client made by the own client. -/
theorem moveRequests_own (hclient : clientID ≠ (w S).ownID) :
    moveRequests w S u clientID oldChannelID newChannelID (w S).ownID moverName =
      [.notify_move (.lib ((w S).channelName newChannelID)) (.arg moverName)] := by
  unfold moveRequests
  rw [serve_trace]
  exact (knows_answering w S).requests_moved_own () clientID hclient oldChannelID newChannelID
    moverName

/-- A move made by another client, whoever is moved. -/
theorem moveRequests_other (hmover : moverID ≠ (w S).ownID) :
    moveRequests w S u clientID oldChannelID newChannelID moverID moverName =
      membershipReports (some ((w S).channelOf (w S).ownID)) (.lib ((w S).nickname clientID))
        oldChannelID newChannelID (some (.arg moverName)) := by
  unfold moveRequests
  rw [serve_trace]
  exact (knows_answering w S).requests_moved_other () clientID oldChannelID newChannelID
    moverID hmover moverName

/-- The own client's move of another client is reported as if it were moved
    itself. -/
theorem not_moveTold_as_mover (hclient : clientID ≠ (w S).ownID)
    (hmover : moverID = (w S).ownID) :
    ¬ MoveTold w S u clientID oldChannelID newChannelID moverID moverName := by
  intro h
  have hnot := h.no_move hclient (.lib ((w S).channelName newChannelID)) (.arg moverName)
  rw [hmover, moveRequests_own w S u clientID _ _ _ hclient] at hnot
  simp at hnot

/-- The own client, moved by another, is reported like a stranger. -/
theorem not_moveTold_as_moved (hclient : clientID = (w S).ownID)
    (hmover : moverID ≠ (w S).ownID) :
    ¬ MoveTold w S u clientID oldChannelID newChannelID moverID moverName := by
  intro h
  obtain ⟨channel, hown⟩ := h.own hclient hmover
  have hmem : (.notify_move channel (.arg moverName) : Notification Str) ∈
      moveRequests w S u clientID oldChannelID newChannelID moverID moverName := by
    rw [hown]
    exact List.mem_singleton.mpr rfl
  rw [moveRequests_other _ _ _ _ _ _ _ _ hmover] at hmem
  exact move_notMem_membershipReports _ _ hmem

/-- A third party moves another client. -/
theorem moveTold_of_strangers (hclient : clientID ≠ (w S).ownID)
    (hmover : moverID ≠ (w S).ownID) :
    MoveTold w S u clientID oldChannelID newChannelID moverID moverName := by
  have hreq := moveRequests_other w S u clientID oldChannelID newChannelID moverID moverName
    hmover
  constructor
  · intro h
    exact absurd h hclient
  · intro _ channel mover
    rw [hreq]
    exact move_notMem_membershipReports _ _
  · intro _
    simp [hreq]
  · intro _
    simp [hreq]

/-- **Roles.** What is requested is right if and only if the own client is both
    the moved client and the mover, or neither. -/
theorem moveTold_iff_same_roles :
    MoveTold w S u clientID oldChannelID newChannelID moverID moverName ↔
      (clientID = (w S).ownID ↔ moverID = (w S).ownID) := by
  by_cases hclient : clientID = (w S).ownID <;> by_cases hmover : moverID = (w S).ownID
  · -- the own client moves itself: nothing is asked for
    have htold : MoveTold w S u clientID oldChannelID newChannelID moverID moverName :=
      ⟨fun _ h => absurd hmover h, fun h => absurd hclient h, fun h => absurd hclient h,
        fun h => absurd hclient h⟩
    exact iff_of_true htold (iff_of_true hclient hmover)
  · have hnot := not_moveTold_as_moved w S u clientID oldChannelID newChannelID moverID
      moverName hclient hmover
    exact iff_of_false hnot (fun h => hmover (h.mp hclient))
  · have hnot := not_moveTold_as_mover w S u clientID oldChannelID newChannelID moverID
      moverName hclient hmover
    exact iff_of_false hnot (fun h => hclient (h.mpr hmover))
  · have htold := moveTold_of_strangers w S u clientID oldChannelID newChannelID moverID
      moverName hclient hmover
    exact iff_of_true htold (iff_of_false hclient hmover)

end roles

/-- Client 2 moves the own client from channel 20 to channel 10; what is
    requested is the arrival of "somebody". -/
theorem not_moveTold_when_moved :
    ¬ ∀ (u : Locals) (clientID : AnyID) (oldChannelID newChannelID : UInt64) (moverID : AnyID)
      (moverName : CString),
      MoveTold (fun _ => lobby) 0 u clientID oldChannelID newChannelID moverID moverName := by
  intro h
  have htold := h default 1 20 10 2 (CString.ofString "Bob")
  exact not_moveTold_as_moved _ _ _ _ _ _ _ _ rfl (by decide) htold

end TeamspeakNotifications
