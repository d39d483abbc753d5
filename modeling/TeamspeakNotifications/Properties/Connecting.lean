import Mathlib.Data.Set.Insert
import TeamspeakNotifications.Model.World

/-! # Joins while connecting

    After connecting, the library announces every client that is already on the
    server with an `onClientMoveEvent` from channel 0, between the changes of
    the connection's status. Those clients did not join.

    * `ConnectionRun`: the events of one connection up to
      `STATUS_CONNECTION_ESTABLISHED`.
    * `NoSpuriousJoin`: no join is requested for a client that was in the own
      client's channel before.
    * `noSpuriousJoin_iff`: the callback cannot tell an announcement from an
      arrival, so this holds exactly when the library gives no nickname for the
      clients that were there.
-/

namespace TeamspeakNotifications

open Interaction CLib

/-! ## Section 1: Connecting -/

inductive ConnectionEvent where
  | status (newStatus : Int) (errorNumber : UInt32)
  | announce (clientID : AnyID)

/-- The status an event changes to, if it does. -/
def ConnectionEvent.status? : ConnectionEvent → Option Int
  | .status newStatus _ => some newStatus
  | .announce _ => none

/-- The events of a connection, from the first change of its status to the last
    one. `clients` are those that were on the server before, at `channelOf`. -/
structure ConnectionRun where
  own : AnyID
  clients : Set AnyID
  own_notMem : own ∉ clients
  channelOf : AnyID → UInt64
  /-- What comes before the last change, with the callbacks' locals. -/
  earlier : List (ConnectionEvent × Locals)
  statuses : earlier.filterMap (fun e => e.1.status?) =
    [STATUS_CONNECTING, STATUS_CONNECTED, STATUS_CONNECTION_ESTABLISHING]
  announced : ∀ c, c ∈ clients ↔ ∃ u, (ConnectionEvent.announce c, u) ∈ earlier
  established : Locals

/-- The callback of an event. -/
def ConnectionEvent.callback (S : UInt64) (channelOf : AnyID → UInt64) :
    ConnectionEvent → Callback
  | .status newStatus errorNumber => .stub S (.onConnectStatusChangeEvent newStatus errorNumber)
  | .announce clientID => .onClientMoveEvent S clientID 0 (channelOf clientID)

/-- The callbacks of the connection `S`, in order. -/
def ConnectionRun.callbacks (r : ConnectionRun) (S : UInt64) : List Activation :=
  let last := ConnectionEvent.status STATUS_CONNECTION_ESTABLISHED ERROR_ok
  (r.earlier ++ [(last, r.established)]).map fun e => ⟨e.1.callback S r.channelOf, e.2⟩

section connecting

variable {σ : Type} (h : Library σ) (S : UInt64) (r : ConnectionRun) (channel : UInt64) (s : σ)

/-- The callback announces a client that was in the own client's channel,
    `channel`, before the own client arrived. -/
def ConnectionRun.Announces (client : AnyID) (c : Callback) : Prop :=
  client ∈ r.clients ∧ r.channelOf client = channel ∧
    c = .onClientMoveEvent S client 0 channel

/-- No join is requested for a client that was there before. -/
def NoSpuriousJoin : Prop :=
  ∀ st ∈ runCallbacks h (r.callbacks S) s, ∀ client,
    r.Announces S channel client st.activation.callback →
      ∀ c mover, .notify_join c mover ∉ requests st.trace

/-- The step: the announcement of a client is reported as its arrival exactly
    when the library gives its nickname. -/
theorem join_announced_iff (K : Knows h S r.own channel) (client : AnyID)
    (hclient : client ∈ r.clients) :
    (∀ c mover, .notify_join c mover ∉
        requests ((decideMove S client 0 channel).run h s).trace) ↔
      (nicknameAnswer h S (ownIDAnswer h "onClientMoveEvent" S s).2 client).1.result? =
        none := by
  have hother : client ≠ r.own := by
    intro heq
    exact r.own_notMem (heq ▸ hclient)
  rw [K.requests_move s client hother]
  -- with a nickname there is a report, and the channel is the own client's
  cases (nicknameAnswer h S (ownIDAnswer h "onClientMoveEvent" S s).2 client).1.result? with
  | none => simp
  | some name => simp

/-- **Connecting.** If the library knows the own client's ID and channel, no
    join is requested for a client that was there before if and only if the
    nickname of each such client is refused to its announcement. -/
theorem noSpuriousJoin_iff (K : Knows h S r.own channel) :
    NoSpuriousJoin h S r channel s ↔
      ∀ st ∈ runCallbacks h (r.callbacks S) s, ∀ client,
        r.Announces S channel client st.activation.callback →
          (nicknameAnswer h S (ownIDAnswer h "onClientMoveEvent" S st.before).2
            client).1.result? = none := by
  unfold NoSpuriousJoin
  apply forall₂_congr
  intro st hst
  apply forall₂_congr
  intro client hann
  obtain ⟨hclient, -, hcallback⟩ := hann
  rw [serve_of_mem h s hst, serve_trace, hcallback]
  exact join_announced_iff h S r channel st.before K client hclient

end connecting

/-- A connection to the lobby, where client 2 already is. -/
def enterLobby : ConnectionRun where
  own := 1
  clients := {2}
  own_notMem := by
    intro h
    exact absurd (Set.mem_singleton_iff.mp h) (by decide)
  channelOf := fun _ => 10
  earlier :=
    [(.status STATUS_CONNECTING 0, default), (.status STATUS_CONNECTED 0, default),
      (.announce 2, default), (.status STATUS_CONNECTION_ESTABLISHING 0, default)]
  statuses := rfl
  announced := by
    intro c
    simp
  established := default

theorem noSpuriousJoin_iff_enterLobby :
    NoSpuriousJoin (answering fun _ => lobby).handler 0 enterLobby 10 () ↔
      ∀ st ∈ runCallbacks (answering fun _ => lobby).handler (enterLobby.callbacks 0) (),
        ∀ client, enterLobby.Announces 0 10 client st.activation.callback →
          (nicknameAnswer (answering fun _ => lobby).handler 0
            (ownIDAnswer (answering fun _ => lobby).handler "onClientMoveEvent" 0
              st.before).2 client).1.result? = none :=
  noSpuriousJoin_iff _ 0 enterLobby 10 () (knows_answering (fun _ => lobby) 0)

/-- Client 2, in the lobby all along, is reported as joining. -/
theorem not_noSpuriousJoin_enterLobby :
    ¬ ∀ r : ConnectionRun, r.own = lobby.ownID →
      NoSpuriousJoin (answering fun _ => lobby).handler 0 r 10 () := by
  intro h
  have hnone := h enterLobby rfl
  -- the announcement is the third of the five callbacks
  have hann : enterLobby.Announces 0 10 2 (.onClientMoveEvent 0 2 0 10) := ⟨rfl, rfl, rfl⟩
  have hmem : Activation.serve (answering fun _ => lobby).handler
      ⟨.onClientMoveEvent 0 2 0 10, default⟩ () ∈
        runCallbacks (answering fun _ => lobby).handler (enterLobby.callbacks 0) () :=
    List.mem_cons_of_mem _ (List.mem_cons_of_mem _ (List.mem_cons_self ..))
  have hno := hnone _ hmem 2 hann
  rw [serve_trace] at hno
  have hrefused := (join_announced_iff _ 0 enterLobby 10 ()
    (knows_answering (fun _ => lobby) 0) 2 rfl).mp hno
  cases hrefused

end TeamspeakNotifications
