import TeamspeakNotifications.Model.Decisions

/-! # What is requested of a move

    * `membershipReports`: the departure and the arrival that a move is reported
      as.
    * `Knows`: libraries that answer with the own client's ID and channel, and
      may otherwise do what they like. Against such a library the move callbacks
      request what their decisions say.
    * `ClientLib`, `Server`, `answering`: libraries whose state does not change
      are tables of replies; the connections of `answering w` are fully known.
-/

namespace TeamspeakNotifications

open Interaction CLib

/-! ## Section 1: Reports of a move -/

/-- A departure from the own channel `here`, then an arrival in it. -/
def membershipReports (here : Option UInt64) (client : Str) (oldChannelID newChannelID : UInt64)
    (mover : Option Str) : List (Notification Str) :=
  (if here = some oldChannelID then [.notify_leave client mover] else []) ++
    (if here = some newChannelID then [.notify_join client mover] else [])

section reports

variable {here : Option UInt64} {client : Str} {oldChannelID newChannelID : UInt64}
  {mover : Option Str}

theorem mem_membershipReports {n : Notification Str} :
    n ∈ membershipReports here client oldChannelID newChannelID mover ↔
      (here = some oldChannelID ∧ n = .notify_leave client mover) ∨
        (here = some newChannelID ∧ n = .notify_join client mover) := by
  unfold membershipReports
  rw [List.mem_append]
  apply or_congr
  · by_cases hold : here = some oldChannelID <;> simp [hold]
  · by_cases hnew : here = some newChannelID <;> simp [hnew]

@[simp] theorem leave_mem_membershipReports (c : Str) (m : Option Str) :
    .notify_leave c m ∈ membershipReports here client oldChannelID newChannelID mover ↔
      here = some oldChannelID ∧ c = client ∧ m = mover := by
  rw [mem_membershipReports]
  simp

@[simp] theorem join_mem_membershipReports (c : Str) (m : Option Str) :
    .notify_join c m ∈ membershipReports here client oldChannelID newChannelID mover ↔
      here = some newChannelID ∧ c = client ∧ m = mover := by
  rw [mem_membershipReports]
  simp

@[simp] theorem move_notMem_membershipReports (c m : Str) :
    .notify_move c m ∉ membershipReports here client oldChannelID newChannelID mover := by
  rw [mem_membershipReports]
  simp

end reports

/-! ## Section 2: Libraries that know where the own client is -/

/-- Whatever else changes in the library, it answers with the own client's ID
    and its channel. -/
structure Knows {σ : Type} (h : Library σ) (S : UInt64) (own : AnyID) (channel : UInt64) :
    Prop where
  clientID : ∀ s, (clientIDAnswer h S s).1 = .ok own
  channelOf : ∀ s, (channelAnswer h S s own).1 = .ok channel

namespace Knows

variable {σ : Type} {h : Library σ} {S : UInt64} {own : AnyID} {channel : UInt64}
  (K : Knows h S own channel) (s : σ)
include K

theorem ownID (event : String) : (ownIDAnswer h event S s).1 = some own := by
  unfold ownIDAnswer
  simp only [K.clientID, Reply.result?_ok]

theorem ownChannel : (ownChannelAnswer h S s).1 = some channel := by
  unfold ownChannelAnswer
  -- the state moves on with every answer, what is answered stays
  have hid := K.clientID s
  generalize clientIDAnswer h S s = answer at hid ⊢
  rcases answer with ⟨id, s₁⟩
  subst hid
  have hchannel := K.channelOf s₁
  dsimp only
  generalize channelAnswer h S s₁ own = answer at hchannel ⊢
  rcases answer with ⟨c, s₂⟩
  subst hchannel
  rfl

theorem requests_membership (client : Str) (oldChannelID newChannelID : UInt64)
    (mover : Option Str) :
    requests ((decideMembership S client oldChannelID newChannelID mover).run h s).trace =
      membershipReports (some channel) client oldChannelID newChannelID mover := by
  rw [TeamspeakNotifications.requests_membership, K.ownChannel, K.ownChannel]
  rfl

/-- The reports of a move under the moved client's nickname. -/
theorem requests_named (clientID : AnyID) (oldChannelID newChannelID : UInt64)
    (mover : Option Str) :
    requests ((decideNamed S clientID oldChannelID newChannelID mover).run h s).trace =
      (nicknameAnswer h S s clientID).1.result?.elim [] (fun name =>
        membershipReports (some channel) (.lib name) oldChannelID newChannelID mover) := by
  rw [TeamspeakNotifications.requests_named]
  simp only [K.requests_membership]

theorem requests_move (clientID : AnyID) (hclient : clientID ≠ own)
    (oldChannelID newChannelID : UInt64) :
    requests ((decideMove S clientID oldChannelID newChannelID).run h s).trace =
      (nicknameAnswer h S (ownIDAnswer h "onClientMoveEvent" S s).2 clientID).1.result?.elim []
        (fun name =>
          membershipReports (some channel) (.lib name) oldChannelID newChannelID none) := by
  have hself : some own ≠ some clientID := by
    intro heq
    exact hclient (Option.some.inj heq).symm
  rw [requests_decideMove]
  simp only [K.ownID, hself, if_false, K.requests_named]

theorem requests_moved_other (clientID : AnyID) (oldChannelID newChannelID : UInt64)
    (moverID : AnyID) (hmover : moverID ≠ own) (moverName : CString) :
    requests ((decideMoved S clientID oldChannelID newChannelID moverID moverName).run
        h s).trace =
      (nicknameAnswer h S (ownIDAnswer h "onClientMoveMovedEvent" S s).2
        clientID).1.result?.elim [] (fun name =>
          membershipReports (some channel) (.lib name) oldChannelID newChannelID
            (some (.arg moverName))) := by
  rw [requests_decideMoved]
  simp only [K.ownID, Option.elim_some, if_pos hmover, K.requests_named]

theorem requests_moved_own (clientID : AnyID) (hclient : clientID ≠ own)
    (oldChannelID newChannelID : UInt64) (moverName : CString) :
    requests ((decideMoved S clientID oldChannelID newChannelID own moverName).run h s).trace =
      (channelNameAnswer h S (ownIDAnswer h "onClientMoveMovedEvent" S s).2
        newChannelID).1.result?.elim [] (fun name =>
          [.notify_move (.lib name) (.arg moverName)]) := by
  rw [requests_decideMoved]
  -- the own client is the mover, and it moved another
  simp only [K.ownID, Option.elim_some, ne_eq, not_true_eq_false, if_false, if_pos hclient]

end Knows

/-! ## Section 3: Libraries at rest -/

/-- The replies of a library whose state is constant. -/
structure ClientLib where
  clientID : UInt64 → Reply AnyID
  channelOfClient : UInt64 → AnyID → Reply UInt64
  clientVariable : UInt64 → AnyID → Nat → Reply LibString
  channelVariable : UInt64 → UInt64 → Nat → Reply LibString
  serverVariable : UInt64 → Nat → Reply LibString

namespace ClientLib

variable (L : ClientLib)

def answer : (c : Call) → Call.Answer c
  | .logMessage _ _ _ _ => ()
  | .getClientID S => L.clientID S
  | .getChannelOfClient S c => L.channelOfClient S c
  | .getClientVariableAsString S c flag => L.clientVariable S c flag
  | .getChannelVariableAsString S c flag => L.channelVariable S c flag
  | .getServerVariableAsString S flag => L.serverVariable S flag
  | .freeMemory _ => ()
  | .request _ => ()

/-- The library as an environment: there is nothing that changes. -/
def handler : Library Unit := fun c s => (L.answer c, s)

/-- A library that fails every query and leaves the given values behind. -/
def failing (id : Option AnyID) (channel : Option UInt64) (name : Option LibString) :
    ClientLib where
  clientID _ := .error ERROR_undefined id
  channelOfClient _ _ := .error ERROR_undefined channel
  clientVariable _ _ _ := .error ERROR_undefined name
  channelVariable _ _ _ := .error ERROR_undefined name
  serverVariable _ _ := .error ERROR_undefined name

end ClientLib

/-- A connection as the library sees it. -/
structure Server where
  ownID : AnyID
  channelOf : AnyID → UInt64
  nickname : AnyID → LibString
  channelName : UInt64 → LibString
  serverName : LibString

/-- A library that answers every query the plugin makes. -/
def answering (w : UInt64 → Server) : ClientLib where
  clientID S := .ok (w S).ownID
  channelOfClient S c := .ok ((w S).channelOf c)
  clientVariable S c flag :=
    if flag = CLIENT_NICKNAME then .ok ((w S).nickname c) else .error ERROR_undefined none
  channelVariable S c flag :=
    if flag = CHANNEL_NAME then .ok ((w S).channelName c) else .error ERROR_undefined none
  serverVariable S flag :=
    if flag = VIRTUALSERVER_NAME then .ok (w S).serverName else .error ERROR_undefined none

theorem knows_answering (w : UInt64 → Server) (S : UInt64) :
    Knows (answering w).handler S (w S).ownID ((w S).channelOf (w S).ownID) :=
  ⟨fun _ => rfl, fun _ => rfl⟩

/-- Client 1 is the own one and sits in channel 10, where everybody else is. -/
def lobby : Server where
  ownID := 1
  channelOf _ := 10
  nickname _ := ⟨0, CString.ofString "somebody"⟩
  channelName _ := ⟨1, CString.ofString "Lobby"⟩
  serverName := ⟨2, CString.ofString "Home"⟩

/-- A start without a configuration file. -/
def unconfigured : Start where
  files _ := .missing
  home := CString.ofString "/home/bob"
  conf := ⟨0⟩

end TeamspeakNotifications
