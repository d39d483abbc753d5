import TeamspeakNotifications.Model.World

/-! # Notifications about the user's own actions

    The callbacks ask for the own client's ID to leave out what the user did.
    The query may fail. `current_client` then answers -1, which three of the
    four callbacks take for "somebody else": they test for `!= 1`.

    * `OwnLibrary`: a library that, asked for the own ID, gives the right one or
      none. All other queries succeed or fail as they like.
    * `OwnAction`: the events that the user caused.
    * `Hidden`: the answers under which such an event goes unnoticed.
    * `noSelfNotification_iff`: no event of a run that the user caused requests
      a notification exactly when all of them are hidden.
-/

namespace TeamspeakNotifications

open Interaction CLib

/-! ## Section 1: Libraries that know the own ID or fail -/

/-- A library that answers `getClientID` with the own ID or fails. -/
structure OwnLibrary (σ : Type) (own : UInt64 → AnyID) where
  handler : Library σ
  answersOwn : ∀ S s id, (clientIDAnswer handler S s).1.result? = some id → id = own S

/-- The event was caused by the user. -/
def OwnAction (own : UInt64 → AnyID) : Callback → Prop
  | .onTextMessageEvent S _ fromID _ _ _ => fromID = own S
  | .onClientPokeEvent S fromClientID _ _ _ => fromClientID = own S
  | .onUpdateChannelEditedEvent S _ invokerID _ => invokerID = own S
  | .onClientMoveEvent S clientID _ _ => clientID = own S
  | _ => False

/-- No event of the run that the user caused requests a notification. -/
def NoSelfNotification {σ : Type} {own : UInt64 → AnyID} (L : OwnLibrary σ own)
    (acts : List Activation) (s : σ) : Prop :=
  ∀ st ∈ runCallbacks L.handler acts s,
    OwnAction own st.activation.callback → requests st.trace = []

section hidden

variable {σ : Type} (h : Library σ) (s : σ)

/-- In the state `s` the library answers so that the event goes unnoticed,
    although the user caused it. -/
def Hidden : Callback → Prop
  | .onUpdateChannelEditedEvent S channelID _ _ =>
    match ownIDAnswer h "onUpdateChannelEditedEvent" S s with
    | (self, s₁) => self ≠ none ∨ (ownChannelAnswer h S s₁).1 ≠ some channelID
  | .onClientMoveEvent S clientID oldChannelID newChannelID =>
    match ownIDAnswer h "onClientMoveEvent" S s with
    | (self, s₁) =>
      let name := nicknameAnswer h S s₁ clientID
      let here := ownChannelAnswer h S name.2
      self ≠ none ∨ name.1.result? = none ∨
        here.1 ≠ some oldChannelID ∧ (ownChannelAnswer h S here.2).1 ≠ some newChannelID
  | .onClientPokeEvent S _ _ _ ffIgnored =>
    ffIgnored ≠ 0 ∨ (ownIDAnswer h "onClientPokeEvent" S s).1 ≠ none
  | _ => True

end hidden

/-! ## Section 2: One callback -/

section callback

variable {σ : Type} (h : Library σ) (S : UInt64) (s : σ)

/-- The two channel tests both miss. -/
theorem requests_membership_eq_nil_iff (client : Str) (oldChannelID newChannelID : UInt64)
    (mover : Option Str) :
    requests ((decideMembership S client oldChannelID newChannelID mover).run h s).trace =
        [] ↔
      (ownChannelAnswer h S s).1 ≠ some oldChannelID ∧
        (ownChannelAnswer h S (ownChannelAnswer h S s).2).1 ≠ some newChannelID := by
  rw [requests_membership]
  unfold afterLeave
  by_cases hold : (ownChannelAnswer h S s).1 = some oldChannelID
  · -- the departure is reported, whatever the second test says
    simp [hold]
  · rw [if_neg hold, if_neg hold, List.nil_append]
    simp [hold]

theorem requests_edited (channelID : UInt64) (invokerID : AnyID) (invokerName : CString)
    (hown : ∀ id, (ownIDAnswer h "onUpdateChannelEditedEvent" S s).1 = some id →
      id = invokerID) :
    requests ((decideEdited S channelID invokerID invokerName).run h s).trace = [] ↔
      Hidden h s (.onUpdateChannelEditedEvent S channelID invokerID invokerName) := by
  rw [requests_decideEdited]
  simp only [Hidden]
  generalize ownIDAnswer h "onUpdateChannelEditedEvent" S s = answer at hown ⊢
  obtain ⟨self, s₁⟩ := answer
  cases self with
  | some id =>
    -- the own ID is the one in the event
    have hid : id = invokerID := hown id rfl
    simp [hid]
  | none =>
    -- the event passes for another client's
    simp

theorem requests_poke (fromClientID : AnyID) (pokerName message : CString) (ffIgnored : Int)
    (hown : ∀ id, (ownIDAnswer h "onClientPokeEvent" S s).1 = some id → id = fromClientID) :
    requests ((decidePoke S fromClientID pokerName message ffIgnored).run h s).trace = [] ↔
      Hidden h s (.onClientPokeEvent S fromClientID pokerName message ffIgnored) := by
  rw [requests_decidePoke]
  simp only [Hidden]
  cases hself : (ownIDAnswer h "onClientPokeEvent" S s).1 with
  | some id =>
    have hid : id = fromClientID := hown id hself
    simp [hid]
  | none => simp

theorem requests_move (clientID : AnyID) (oldChannelID newChannelID : UInt64)
    (hown : ∀ id, (ownIDAnswer h "onClientMoveEvent" S s).1 = some id → id = clientID) :
    requests ((decideMove S clientID oldChannelID newChannelID).run h s).trace = [] ↔
      Hidden h s (.onClientMoveEvent S clientID oldChannelID newChannelID) := by
  rw [requests_decideMove]
  simp only [Hidden]
  generalize ownIDAnswer h "onClientMoveEvent" S s = answer at hown ⊢
  obtain ⟨self, s₁⟩ := answer
  cases self with
  | some id =>
    -- the own ID is the one in the event
    have hid : id = clientID := hown id rfl
    simp [hid]
  | none =>
    simp only [reduceCtorEq, if_false, requests_named]
    cases (nicknameAnswer h S s₁ clientID).1.result? with
    | none => simp
    | some name =>
      rw [Option.elim_some, requests_membership_eq_nil_iff]
      simp

/-- A text message of the user is recognised, or not shown for want of the own
    ID. -/
theorem requests_textMessage (targetMode fromID : AnyID) (fromName message : CString)
    (ffIgnored : Int)
    (hown : ∀ id, (ownIDAnswer h "onTextMessageEvent" S s).1 = some id → id = fromID) :
    requests ((decideTextMessage S targetMode fromID fromName message ffIgnored).run
      h s).trace = [] := by
  rw [requests_decideTextMessage]
  cases hself : (ownIDAnswer h "onTextMessageEvent" S s).1 with
  | some id =>
    have hid : id = fromID := hown id hself
    simp [hself, hid]
  | none => simp [hself]

end callback

/-! ## Section 3: Runs -/

section runs

variable {σ : Type} {own : UInt64 → AnyID} (L : OwnLibrary σ own)

/-- The step: an event that the user caused requests nothing exactly when it is
    hidden. -/
theorem requests_decide_eq_nil_iff (c : Callback) (s : σ) (hc : OwnAction own c) :
    requests (c.decide.run L.handler s).trace = [] ↔ Hidden L.handler s c := by
  have hown : ∀ event S id,
      (ownIDAnswer L.handler event S s).1 = some id → id = own S :=
    fun event S => L.answersOwn S _
  cases c with
  | onUpdateChannelEditedEvent S channelID invokerID invokerName =>
    cases hc
    exact requests_edited _ S s channelID _ invokerName (hown _ S)
  | onClientPokeEvent S fromClientID pokerName message ffIgnored =>
    cases hc
    exact requests_poke _ S s _ pokerName message ffIgnored (hown _ S)
  | onClientMoveEvent S clientID oldChannelID newChannelID =>
    cases hc
    exact requests_move _ S s _ oldChannelID newChannelID (hown _ S)
  | onTextMessageEvent S targetMode fromID fromName message ffIgnored =>
    cases hc
    have hnil := requests_textMessage _ S s targetMode _ fromName message ffIgnored (hown _ S)
    exact iff_of_true hnil trivial
  | onClientMoveMovedEvent => exact hc.elim
  | stub => exact hc.elim

/-- **Own actions.** In a run, no event that the user caused requests a
    notification if and only if each of them is hidden. -/
theorem noSelfNotification_iff (acts : List Activation) (s : σ) :
    NoSelfNotification L acts s ↔
      ∀ st ∈ runCallbacks L.handler acts s, OwnAction own st.activation.callback →
        Hidden L.handler st.before st.activation.callback := by
  unfold NoSelfNotification
  apply forall₂_congr
  intro st hst
  rw [serve_of_mem L.handler s hst, serve_trace]
  apply forall_congr'
  intro hc
  exact requests_decide_eq_nil_iff L _ st.before hc

end runs

/-- A library that fails every query. -/
def failing : OwnLibrary Unit (fun _ => 1) where
  handler := (ClientLib.failing none none none).handler
  answersOwn := by
    intro S s id h
    cases h

/-- The user, client 1, pokes itself while the own ID cannot be had. -/
theorem not_noSelfNotification_poke :
    ¬ ∀ acts : List Activation, NoSelfNotification failing acts () := by
  intro h
  let poke : Callback := .onClientPokeEvent 0 1 (CString.ofString "me") (CString.ofString "hi") 0
  have hown : OwnAction (fun _ => 1) poke := rfl
  have hnil := h [⟨poke, default⟩] _ (List.mem_singleton.mpr rfl) hown
  rw [serve_trace] at hnil
  rcases (requests_decide_eq_nil_iff failing poke () hown).mp hnil with hff | hid
  · exact hff rfl
  · exact hid rfl

end TeamspeakNotifications
