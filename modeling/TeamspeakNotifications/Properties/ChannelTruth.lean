import TeamspeakNotifications.Model.World

/-! # Channels a notification is about

    Some notifications name a channel, others mean one: "left the channel" is
    the own client's. The events carry several channel IDs, all of one type.

    * `TruthfulLibrary`: a library that answers every query with the truth or
      not at all, on servers whose channels have distinct names.
    * `TrueOf`: what a notification says of channels is so.
    * `Misnamed`: the own client moved another client, and the name of the
      channel it went to is known. This one is passed to `notify_move`.
    * `channelTruth_iff`: everything an event requests is true exactly if it is
      not such an event.
-/

namespace TeamspeakNotifications

open Interaction CLib

/-! ## Section 1: Truth -/

/-- A library that answers the truth about the servers `w`, if it answers. No
    two channels of a server have the same name. -/
structure TruthfulLibrary (σ : Type) (w : UInt64 → Server) where
  handler : Library σ
  clientID : ∀ S s id, (clientIDAnswer handler S s).1 = .ok id → id = (w S).ownID
  channelOf : ∀ S s client channel, (channelAnswer handler S s client).1 = .ok channel →
    channel = (w S).channelOf client
  channelName : ∀ S s channel name, (channelNameAnswer handler S s channel).1 = .ok name →
    name.text = ((w S).channelName channel).text
  distinct : ∀ S, Function.Injective fun channel => ((w S).channelName channel).text

/-- The channel the own client is in. -/
def Server.ownChannel (w : Server) : UInt64 := w.channelOf w.ownID

namespace Callback

/-- The channel a client left, according to the event. -/
def oldChannelID? : Callback → Option UInt64
  | .onClientMoveEvent _ _ oldChannelID _ => some oldChannelID
  | .onClientMoveMovedEvent _ _ oldChannelID _ _ _ => some oldChannelID
  | _ => none

/-- The channel a client came to, according to the event. -/
def newChannelID? : Callback → Option UInt64
  | .onClientMoveEvent _ _ _ newChannelID => some newChannelID
  | .onClientMoveMovedEvent _ _ _ newChannelID _ _ => some newChannelID
  | _ => none

/-- The channel that was edited, according to the event. -/
def channelID? : Callback → Option UInt64
  | .onUpdateChannelEditedEvent _ channelID _ _ => some channelID
  | _ => none

end Callback

/-- The summary line of a request, as it is assembled. -/
def builtSummary (n : Notification Str) : Except Overflow CString :=
  (n.map Str.text).toCall.map NotifyCall.summary

/-- What a notification of an event says of channels is so. -/
def TrueOf (w : Server) (c : Callback) : Notification Str → Prop
  | .notify_move channel mover => ∃ oldChannelID, c.oldChannelID? = some oldChannelID ∧
    builtSummary (.notify_move channel mover) = .ok (CString.ofString "You left " ++
      (w.channelName oldChannelID).text ++ CString.ofString ".")
  | .notify_channel_message channel sender message =>
    builtSummary (.notify_channel_message channel sender message) =
      .ok (w.channelName w.ownChannel).text
  | .notify_leave _ _ => c.oldChannelID? = some w.ownChannel
  | .notify_join _ _ => c.newChannelID? = some w.ownChannel
  | .notify_channel_edited _ => c.channelID? = some w.ownChannel
  | _ => True

/-- In the state `s`, the own client is known to have moved another client out
    of a channel, and the other channel's name is known. -/
def Misnamed {σ : Type} (h : Library σ) (s : σ) : Callback → Prop
  | .onClientMoveMovedEvent S clientID oldChannelID newChannelID moverID _ =>
    match ownIDAnswer h "onClientMoveMovedEvent" S s with
    | (self, s₁) => self = some moverID ∧ clientID ≠ moverID ∧ oldChannelID ≠ newChannelID ∧
      (channelNameAnswer h S s₁ newChannelID).1.result? ≠ none
  | _ => False

/-! ## Section 2: Single notifications -/

section notifications

variable {σ : Type} {w : UInt64 → Server} (L : TruthfulLibrary σ w) (S : UInt64) (s : σ)

theorem TruthfulLibrary.ownID {event : String} {myID : AnyID}
    (hself : (ownIDAnswer L.handler event S s).1 = some myID) : myID = (w S).ownID := by
  unfold ownIDAnswer at hself
  dsimp only at hself
  cases hid : (clientIDAnswer L.handler S
      ((logMessage event .DEBUG S).run L.handler s).state).1 with
  | error c left => rw [hid] at hself; cases hself
  | ok id =>
    rw [hid] at hself
    cases hself
    exact L.clientID S _ myID hid

/-- Where a channel test finds the own client, there it is. -/
theorem TruthfulLibrary.ownChannel {channel : UInt64}
    (hhere : (ownChannelAnswer L.handler S s).1 = some channel) :
    channel = (w S).ownChannel := by
  unfold ownChannelAnswer at hhere
  have hid := L.clientID S s
  generalize clientIDAnswer L.handler S s = answer at hhere hid
  rcases answer with ⟨id, s₁⟩
  cases id with
  | error c left => cases hhere
  | ok myID =>
    have hown : myID = (w S).ownID := hid myID rfl
    dsimp only at hhere
    have hchannel := L.channelOf S s₁ myID
    generalize channelAnswer L.handler S s₁ myID = answer at hhere hchannel
    rcases answer with ⟨c, s₂⟩
    cases c with
    | error c left => cases hhere
    | ok c =>
      cases hhere
      rw [hchannel channel rfl, hown]
      rfl

/-- "You left" with the new channel's name is true if that is the old channel. -/
theorem trueOf_move_iff (c : Callback) {oldChannelID newChannelID : UInt64} {name : LibString}
    (mover : Str) (hold : c.oldChannelID? = some oldChannelID)
    (hname : name.text = ((w S).channelName newChannelID).text)
    (hdistinct : Function.Injective fun channel => ((w S).channelName channel).text) :
    TrueOf (w S) c (.notify_move (.lib name) mover) ↔ oldChannelID = newChannelID := by
  have hbuilt : builtSummary (.notify_move (.lib name) mover) =
      .ok (CString.ofString "You left " ++ name.text ++ CString.ofString ".") := by
    unfold builtSummary
    rw [Notification.toCall_eq]
    rfl
  unfold TrueOf
  dsimp only
  rw [hold, hbuilt, hname]
  constructor
  · rintro ⟨old, hsome, hsummary⟩
    cases hsome
    have hbytes := congrArg CString.bytes (Except.ok.inj hsummary)
    simp only [CString.bytes_append] at hbytes
    have htext := List.append_cancel_left (List.append_cancel_right hbytes)
    exact hdistinct (CString.ext htext.symm)
  · intro heq
    exact ⟨oldChannelID, rfl, by rw [heq]⟩

theorem trueOf_channelMessage {c : Callback} {name : LibString} (sender message : Str)
    (hname : name.text = ((w S).channelName (w S).ownChannel).text) :
    TrueOf (w S) c (.notify_channel_message (.lib name) sender message) := by
  unfold TrueOf builtSummary
  dsimp only
  rw [Notification.toCall_eq, ← hname]
  rfl

end notifications

/-! ## Section 3: One callback -/

section callback

variable {σ : Type} {w : UInt64 → Server} (L : TruthfulLibrary σ w) (S : UInt64) (s : σ)

/-- The reports of a move are true of the channels in its event. -/
theorem trueOf_membership (c : Callback) {oldChannelID newChannelID : UInt64}
    (hold : c.oldChannelID? = some oldChannelID) (hnew : c.newChannelID? = some newChannelID)
    (client : Str) (mover : Option Str) :
    ∀ n ∈ requests ((decideMembership S client oldChannelID newChannelID mover).run
      L.handler s).trace, TrueOf (w S) c n := by
  intro n hn
  rw [requests_membership, List.mem_append] at hn
  rcases hn with hleave | hjoin
  · by_cases hhere : (ownChannelAnswer L.handler S s).1 = some oldChannelID
    · rw [if_pos hhere, List.mem_singleton] at hleave
      subst hleave
      have hown : oldChannelID = (w S).ownChannel := L.ownChannel S s hhere
      unfold TrueOf
      rw [hold, hown]
    · rw [if_neg hhere] at hleave
      cases hleave
  · generalize afterLeave L.handler S s client oldChannelID mover = s₁ at hjoin
    by_cases hhere : (ownChannelAnswer L.handler S s₁).1 = some newChannelID
    · rw [if_pos hhere, List.mem_singleton] at hjoin
      subst hjoin
      have hown : newChannelID = (w S).ownChannel := L.ownChannel S s₁ hhere
      unfold TrueOf
      rw [hnew, hown]
    · rw [if_neg hhere] at hjoin
      cases hjoin

theorem trueOf_named (c : Callback) {oldChannelID newChannelID : UInt64}
    (hold : c.oldChannelID? = some oldChannelID) (hnew : c.newChannelID? = some newChannelID)
    (clientID : AnyID) (mover : Option Str) :
    ∀ n ∈ requests ((decideNamed S clientID oldChannelID newChannelID mover).run
      L.handler s).trace, TrueOf (w S) c n := by
  rw [requests_named]
  cases (nicknameAnswer L.handler S s clientID).1.result? with
  | none => simp
  | some name => exact trueOf_membership L S _ c hold hnew (.lib name) mover

theorem trueOf_edited (channelID : UInt64) (invokerID : AnyID) (invokerName : CString) :
    ∀ n ∈ requests ((decideEdited S channelID invokerID invokerName).run L.handler s).trace,
      TrueOf (w S) (.onUpdateChannelEditedEvent S channelID invokerID invokerName) n := by
  intro n hn
  rw [requests_decideEdited] at hn
  dsimp only at hn
  split_ifs at hn with hshown
  · rw [List.mem_singleton] at hn
    subst hn
    exact congrArg some (L.ownChannel S _ hshown.2)
  · cases hn

theorem trueOf_onMove (clientID : AnyID) (oldChannelID newChannelID : UInt64) :
    ∀ n ∈ requests ((decideMove S clientID oldChannelID newChannelID).run L.handler s).trace,
      TrueOf (w S) (.onClientMoveEvent S clientID oldChannelID newChannelID) n := by
  rw [requests_decideMove]
  dsimp only
  split_ifs with hself
  · intro n hn
    cases hn
  · exact trueOf_named L S _ _ rfl rfl clientID none

/-- The name in a notification of a text message is the own channel's. -/
theorem trueOf_text (c : Callback) (targetMode myID : AnyID) (hown : myID = (w S).ownID)
    (fromName message : CString) :
    ∀ n ∈ (textNotification L.handler S s targetMode myID fromName message).toList,
      TrueOf (w S) c n := by
  intro n hn
  rw [Option.mem_toList] at hn
  unfold textNotification at hn
  split_ifs at hn with hserver hchannel hclient
  · obtain ⟨name, -, rfl⟩ := Option.map_eq_some_iff.mp hn
    trivial
  · have hof := L.channelOf S s myID
    generalize channelAnswer L.handler S s myID = answer at hn hof
    rcases answer with ⟨channel, s₁⟩
    cases channel with
    | error c left => cases hn
    | ok channel =>
      obtain ⟨name, hname, rfl⟩ := Option.map_eq_some_iff.mp hn
      have hhere : channel = (w S).ownChannel := by
        rw [hof channel rfl, hown]
        rfl
      apply trueOf_channelMessage
      rw [← hhere]
      apply L.channelName S s₁ channel
      cases hanswer : (channelNameAnswer L.handler S s₁ channel).1 with
      | error c left => rw [hanswer] at hname; cases hname
      | ok name' => rw [hanswer] at hname; cases hname; rfl
  · cases hn
    trivial

theorem trueOf_onText (targetMode fromID : AnyID) (fromName message : CString)
    (ffIgnored : Int) :
    ∀ n ∈ requests ((decideTextMessage S targetMode fromID fromName message ffIgnored).run
        L.handler s).trace,
      TrueOf (w S) (.onTextMessageEvent S targetMode fromID fromName message ffIgnored) n := by
  rw [requests_decideTextMessage]
  by_cases hff : ffIgnored = 0
  · simp only [hff, if_true]
    cases hself : (ownIDAnswer L.handler "onTextMessageEvent" S s).1 with
    | none => simp
    | some myID =>
      have hown : myID = (w S).ownID := L.ownID S s hself
      rw [Option.elim_some]
      split_ifs with heq
      · intro n hn
        cases hn
      · exact trueOf_text L S _ _ targetMode myID hown fromName message
  · simp only [hff, if_false]
    intro n hn
    cases hn

theorem trueOf_onPoke (fromClientID : AnyID) (pokerName message : CString) (ffIgnored : Int) :
    ∀ n ∈ requests ((decidePoke S fromClientID pokerName message ffIgnored).run
        L.handler s).trace,
      TrueOf (w S) (.onClientPokeEvent S fromClientID pokerName message ffIgnored) n := by
  intro n hn
  rw [requests_decidePoke] at hn
  split_ifs at hn with hshown
  · rw [List.mem_singleton] at hn
    subst hn
    trivial
  · cases hn

/-- The own client's move of another is told with the new channel's name, if
    that is known. -/
theorem trueOf_ownMove_iff (c : Callback) {oldChannelID : UInt64} (newChannelID : UInt64)
    (mover : Str) (hold : c.oldChannelID? = some oldChannelID) :
    (∀ n ∈ (channelNameAnswer L.handler S s newChannelID).1.result?.elim []
        (fun name => [.notify_move (.lib name) mover]), TrueOf (w S) c n) ↔
      ¬ (oldChannelID ≠ newChannelID ∧
        (channelNameAnswer L.handler S s newChannelID).1.result? ≠ none) := by
  cases hanswer : (channelNameAnswer L.handler S s newChannelID).1 with
  | error c left => simp
  | ok name =>
    have hname := L.channelName S s newChannelID name hanswer
    have hmove := trueOf_move_iff S c mover hold hname (L.distinct S)
    simp [hmove]

/-- What is requested of a move by another client is true; what is requested of
    the own client's move of another is true if it names the right channel. -/
theorem trueOf_onMoved_iff (clientID : AnyID) (oldChannelID newChannelID : UInt64)
    (moverID : AnyID) (moverName : CString) :
    (∀ n ∈ requests ((decideMoved S clientID oldChannelID newChannelID moverID moverName).run
        L.handler s).trace,
      TrueOf (w S) (.onClientMoveMovedEvent S clientID oldChannelID newChannelID moverID
        moverName) n) ↔
      ¬ Misnamed L.handler s (.onClientMoveMovedEvent S clientID oldChannelID newChannelID
        moverID moverName) := by
  rw [requests_decideMoved]
  unfold Misnamed
  dsimp only
  generalize ownIDAnswer L.handler "onClientMoveMovedEvent" S s = answer
  rcases answer with ⟨self, s₁⟩
  cases self with
  | none => simp
  | some myID =>
    dsimp only [Option.elim_some]
    by_cases hmover : moverID = myID
    · subst hmover
      rw [if_neg (not_not.mpr rfl)]
      by_cases hclient : clientID = moverID
      · rw [if_neg (not_not.mpr hclient)]
        simp [hclient]
      · rw [if_pos hclient, trueOf_ownMove_iff L S s₁ _ newChannelID _ rfl]
        simp [hclient]
    · have htrue := trueOf_named L S s₁ (.onClientMoveMovedEvent S clientID oldChannelID
        newChannelID moverID moverName) rfl rfl clientID (some (.arg moverName))
      have hother : myID ≠ moverID := fun h => hmover h.symm
      rw [if_pos hmover]
      exact iff_of_true htrue (fun hn => hother (Option.some.inj hn.1))

/-- The step: the decision about an event. -/
theorem trueOf_decide_iff (c : Callback) :
    (∀ n ∈ requests (c.decide.run L.handler s).trace, TrueOf (w c.connection) c n) ↔
      ¬ Misnamed L.handler s c := by
  cases c with
  | onUpdateChannelEditedEvent S channelID invokerID invokerName =>
    exact iff_of_true (trueOf_edited L S s channelID invokerID invokerName) id
  | onClientMoveEvent S clientID oldChannelID newChannelID =>
    exact iff_of_true (trueOf_onMove L S s clientID oldChannelID newChannelID) id
  | onClientMoveMovedEvent S clientID oldChannelID newChannelID moverID moverName =>
    exact trueOf_onMoved_iff L S s clientID oldChannelID newChannelID moverID moverName
  | onTextMessageEvent S targetMode fromID fromName message ffIgnored =>
    exact iff_of_true (trueOf_onText L S s targetMode fromID fromName message ffIgnored) id
  | onClientPokeEvent S fromClientID pokerName message ffIgnored =>
    exact iff_of_true (trueOf_onPoke L S s fromClientID pokerName message ffIgnored) id
  | stub S which => exact iff_of_true (by simp [Callback.decide, requests]) id

/-- **Channels.** Every notification requested for an event is true of the
    channel it names or means if and only if the event is not one in which the
    own client moved another client out of a channel, to one whose name is
    known. -/
theorem channelTruth_iff (c : Callback) (u : Locals) :
    (∀ n ∈ requests (Activation.serve L.handler ⟨c, u⟩ s).trace,
      TrueOf (w c.connection) c n) ↔ ¬ Misnamed L.handler s c := by
  rw [serve_trace]
  exact trueOf_decide_iff L s c

end callback

/-- A server whose channel `n` has a name of `n` letters. -/
def house : Server where
  ownID := 1
  channelOf _ := 10
  nickname _ := ⟨0, CString.ofString "somebody"⟩
  channelName channel := ⟨1, ⟨List.replicate channel.toNat 120, by simp [List.mem_replicate]⟩⟩
  serverName := ⟨2, CString.ofString "Home"⟩

/-- Everything about the house is known. -/
def houseLibrary : TruthfulLibrary Unit (fun _ => house) where
  handler := (answering fun _ => house).handler
  clientID := fun _ _ _ h => (Reply.ok.inj h).symm
  channelOf := fun _ _ _ _ h => (Reply.ok.inj h).symm
  channelName := fun _ _ _ _ h => congrArg LibString.text (Reply.ok.inj h).symm
  distinct := by
    intro _ a b h
    have hlength := congrArg CString.length h
    simp only [house, CString.length, List.length_replicate] at hlength
    exact UInt64.toNat_inj.mp hlength

/-- The user, client 1, moves client 2 from channel 20 to channel 30, and is told
    to have left the latter. -/
theorem not_channelTruth_house :
    ¬ ∀ c : Callback, ∀ n ∈ requests (Activation.serve houseLibrary.handler
      ⟨c, default⟩ ()).trace, TrueOf house c n := by
  intro h
  have htrue := h (.onClientMoveMovedEvent 0 2 20 30 1 (CString.ofString "me"))
  rw [serve_trace] at htrue
  have hnot := (trueOf_decide_iff houseLibrary () _).mp htrue
  exact hnot ⟨by decide, by decide, by decide, by simp [houseLibrary, channelNameAnswer,
    ClientLib.handler, ClientLib.answer, answering]⟩

end TeamspeakNotifications
