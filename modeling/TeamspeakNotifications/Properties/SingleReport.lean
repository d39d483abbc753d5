import TeamspeakNotifications.Model.World

/-! # One move, one report

    The move callbacks ask for the own client's channel twice, once to report a
    departure and once to report an arrival. The library is not at rest in
    between: its answers come from other threads, and showing the departure
    takes time. The state of the library moves on with every call, so a library
    with states stands for every interleaving.

    * `AtMostOneReport`: not both a departure and an arrival are requested.
    * `Crosses`: the own client is found in the one channel by the first test
      and in the other by the second.
    * `atMostOneReport_iff`: a move is reported once at most exactly if the own
      client is not seen to cross over as well.
-/

namespace TeamspeakNotifications

open Interaction CLib

/-! ## Section 1: Moves and reports -/

/-- The event of a client's move. `mover` is `none` if it moved itself. -/
structure MoveEvent where
  connection : UInt64
  clientID : AnyID
  oldChannelID : UInt64
  newChannelID : UInt64
  mover : Option (AnyID × CString)

/-- The callback of the event. -/
def MoveEvent.callback (e : MoveEvent) : Callback :=
  match e.mover with
  | none => .onClientMoveEvent e.connection e.clientID e.oldChannelID e.newChannelID
  | some (moverID, moverName) =>
    .onClientMoveMovedEvent e.connection e.clientID e.oldChannelID e.newChannelID moverID
      moverName

/-- The request reports a departure or an arrival. -/
def Notification.IsReport {τ : Type} : Notification τ → Bool
  | .notify_leave _ _ => true
  | .notify_join _ _ => true
  | _ => false

/-- At most one of the requests reports a departure or an arrival. -/
def AtMostOneReport (ns : List (Notification Str)) : Prop :=
  (ns.filter Notification.IsReport).length ≤ 1

section crossing

variable {σ : Type} (h : Library σ)

/-- The nickname is known, and the own client is found in the old channel by
    the first test and in the new one by the second. -/
def Crosses (S : UInt64) (s : σ) (clientID : AnyID) (oldChannelID newChannelID : UInt64)
    (mover : Option Str) : Prop :=
  match nicknameAnswer h S s clientID with
  | (.ok name, s₁) => (ownChannelAnswer h S s₁).1 = some oldChannelID ∧
    (ownChannelAnswer h S (afterLeave h S s₁ (.lib name) oldChannelID mover)).1 =
      some newChannelID
  | (.error _ _, _) => False

/-- The callback of the event, called in the state `s`, comes to the channel
    tests and sees the own client cross over. -/
def MoveEvent.SeesCrossing (e : MoveEvent) (s : σ) : Prop :=
  match e.mover with
  | none =>
    match ownIDAnswer h "onClientMoveEvent" e.connection s with
    | (self, s₁) => self ≠ some e.clientID ∧
      Crosses h e.connection s₁ e.clientID e.oldChannelID e.newChannelID none
  | some (moverID, moverName) =>
    match ownIDAnswer h "onClientMoveMovedEvent" e.connection s with
    | (none, _) => False
    | (some myID, s₁) => moverID ≠ myID ∧
      Crosses h e.connection s₁ e.clientID e.oldChannelID e.newChannelID
        (some (.arg moverName))

end crossing

/-! ## Section 2: One callback -/

section callback

variable {σ : Type} (h : Library σ) (S : UInt64) (s : σ) (clientID : AnyID)
  (oldChannelID newChannelID : UInt64)

theorem atMostOneReport_nil : AtMostOneReport [] := Nat.zero_le 1

theorem atMostOneReport_move (channel mover : Str) :
    AtMostOneReport [.notify_move channel mover] := Nat.zero_le 1

/-- The two tests: both hit only if the own client is found in either channel. -/
theorem atMostOneReport_membership (client : Str) (mover : Option Str) :
    AtMostOneReport
        (requests ((decideMembership S client oldChannelID newChannelID mover).run h s).trace) ↔
      ¬ ((ownChannelAnswer h S s).1 = some oldChannelID ∧
        (ownChannelAnswer h S (afterLeave h S s client oldChannelID mover)).1 =
          some newChannelID) := by
  rw [requests_membership]
  unfold AtMostOneReport
  by_cases hold : (ownChannelAnswer h S s).1 = some oldChannelID
  · by_cases hnew : (ownChannelAnswer h S (afterLeave h S s client oldChannelID mover)).1 =
      some newChannelID
    · simp [hold, hnew, List.filter_cons, Notification.IsReport]
    · simp [hold, hnew, List.filter_cons, Notification.IsReport]
  · by_cases hnew : (ownChannelAnswer h S (afterLeave h S s client oldChannelID mover)).1 =
      some newChannelID
    · simp [hold, hnew, List.filter_cons, Notification.IsReport]
    · simp [hold, hnew]

theorem atMostOneReport_named (mover : Option Str) :
    AtMostOneReport
        (requests ((decideNamed S clientID oldChannelID newChannelID mover).run h s).trace) ↔
      ¬ Crosses h S s clientID oldChannelID newChannelID mover := by
  rw [requests_named]
  unfold Crosses
  generalize nicknameAnswer h S s clientID = answer
  rcases answer with ⟨name, s₁⟩
  cases name with
  | error c left => exact iff_of_true atMostOneReport_nil id
  | ok name =>
    exact atMostOneReport_membership h S s₁ oldChannelID newChannelID (.lib name) mover

theorem atMostOneReport_onMove :
    AtMostOneReport
        (requests ((decideMove S clientID oldChannelID newChannelID).run h s).trace) ↔
      ¬ MoveEvent.SeesCrossing h ⟨S, clientID, oldChannelID, newChannelID, none⟩ s := by
  rw [requests_decideMove]
  unfold MoveEvent.SeesCrossing
  dsimp only
  generalize ownIDAnswer h "onClientMoveEvent" S s = answer
  rcases answer with ⟨self, s₁⟩
  by_cases hself : self = some clientID
  · rw [if_pos hself]
    exact iff_of_true atMostOneReport_nil (fun hn => hn.1 hself)
  · rw [if_neg hself, atMostOneReport_named]
    simp [hself]

theorem atMostOneReport_onMoved (moverID : AnyID) (moverName : CString) :
    AtMostOneReport
        (requests ((decideMoved S clientID oldChannelID newChannelID moverID moverName).run
          h s).trace) ↔
      ¬ MoveEvent.SeesCrossing h
        ⟨S, clientID, oldChannelID, newChannelID, some (moverID, moverName)⟩ s := by
  rw [requests_decideMoved]
  unfold MoveEvent.SeesCrossing
  dsimp only
  generalize ownIDAnswer h "onClientMoveMovedEvent" S s = answer
  rcases answer with ⟨self, s₁⟩
  cases self with
  | none => exact iff_of_true atMostOneReport_nil id
  | some myID =>
    dsimp only [Option.elim_some]
    by_cases hmover : moverID = myID
    · -- the own client moved somebody: no channel test is made
      rw [if_neg (not_not.mpr hmover)]
      apply iff_of_true _ (fun hn => hn.1 hmover)
      by_cases hclient : clientID = myID
      · rw [if_neg (not_not.mpr hclient)]
        exact atMostOneReport_nil
      · rw [if_pos hclient]
        cases (channelNameAnswer h S s₁ newChannelID).1.result? with
        | none => exact atMostOneReport_nil
        | some name => exact atMostOneReport_move (.lib name) (.arg moverName)
    · rw [if_pos hmover, atMostOneReport_named]
      simp [hmover]

/-- The step: the decision about a move. -/
theorem atMostOneReport_decide (e : MoveEvent) :
    AtMostOneReport (requests (e.callback.decide.run h s).trace) ↔ ¬ e.SeesCrossing h s := by
  rcases e with ⟨S, clientID, oldChannelID, newChannelID, mover⟩
  cases mover with
  | none => exact atMostOneReport_onMove h S s clientID oldChannelID newChannelID
  | some who =>
    rcases who with ⟨moverID, moverName⟩
    exact atMostOneReport_onMoved h S s clientID oldChannelID newChannelID moverID moverName

/-- An own client that stays where it is does not cross over. -/
theorem not_crosses_of_knows {own : AnyID} {channel : UInt64} (K : Knows h S own channel)
    (hne : oldChannelID ≠ newChannelID) (mover : Option Str) :
    ¬ Crosses h S s clientID oldChannelID newChannelID mover := by
  unfold Crosses
  generalize nicknameAnswer h S s clientID = answer
  rcases answer with ⟨name, s₁⟩
  cases name with
  | error c left => exact id
  | ok name =>
    intro hcrosses
    obtain ⟨hold, hnew⟩ := hcrosses
    rw [K.ownChannel] at hold hnew
    exact hne (Option.some.inj (hold.symm.trans hnew))

/-- **One report.** Whatever the library answers at any time, a move is reported
    at most once if and only if the callback does not see the own client cross
    over between its two channel tests. -/
theorem atMostOneReport_iff (e : MoveEvent) (u : Locals) :
    AtMostOneReport (requests (Activation.serve h ⟨e.callback, u⟩ s).trace) ↔
      ¬ e.SeesCrossing h s := by
  rw [serve_trace]
  exact atMostOneReport_decide h s e

end callback

/-- The own client's channel is the state. While a notification is shown, the
    own client goes to channel 20. -/
def wandering : Library UInt64 := fun c channel =>
  let server := { lobby with channelOf := fun _ => channel }
  match c with
  | .request _ => ((), 20)
  | c => ((answering fun _ => server).answer c, channel)

/-- Client 2 goes from the own client's channel to channel 20, and the own
    client follows: the move is a departure and an arrival. -/
theorem not_atMostOneReport_wandering :
    ¬ ∀ e : MoveEvent, e.clientID ≠ lobby.ownID → e.oldChannelID ≠ e.newChannelID →
      AtMostOneReport (requests (Activation.serve wandering ⟨e.callback, default⟩ 10).trace) := by
  intro h
  have hone := h ⟨0, 2, 10, 20, none⟩ (by decide) (by decide)
  rw [serve_trace] at hone
  have hnot := (atMostOneReport_decide wandering 10 ⟨0, 2, 10, 20, none⟩).mp hone
  exact hnot ⟨by decide, rfl, rfl⟩

end TeamspeakNotifications
