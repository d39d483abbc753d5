import TeamspeakNotifications.Model.World

/-! # The move callbacks agree on third parties

    `onClientMoveEvent` and `onClientMoveMovedEvent` have a copy of the same
    report each, behind different tests of what `current_client` returns: the
    one goes on unless it is 1, the other only if it is 0. They part if the own
    ID is not known. Then the one gets as far as the channel tests, which miss.

    * `ClientLib.reports`: what is to be requested of a move.
    * `reportCalls`: the same as arguments of `notify`.
    * `moves_agree`: both callbacks request this of a move of another client by
      another client, whatever the library knows or does not.
-/

namespace TeamspeakNotifications

open Interaction CLib

/-! ## Section 1: What is to be requested -/

namespace ClientLib

variable (L : ClientLib)

/-- The own client's channel, if the library knows its ID and its channel. -/
def ownChannel? (S : UInt64) : Option UInt64 :=
  match L.clientID S with
  | .ok own => (L.channelOfClient S own).result?
  | .error _ _ => none

/-- The reports of a move under the client's nickname, if that is known. -/
def reports (S : UInt64) (clientID : AnyID) (oldChannelID newChannelID : UInt64)
    (mover : Option Str) : List (Notification Str) :=
  match (L.clientVariable S clientID CLIENT_NICKNAME).result? with
  | some name =>
    membershipReports (L.ownChannel? S) (.lib name) oldChannelID newChannelID mover
  | none => []

/-- The calls of `notify` for a move, with the body `body`: the departure from
    the own channel, then the arrival in it. -/
def reportCalls (S : UInt64) (clientID : AnyID) (oldChannelID newChannelID : UInt64)
    (body : CString) : List NotifyCall :=
  match (L.clientVariable S clientID CLIENT_NICKNAME).result? with
  | some name =>
    (if L.ownChannel? S = some oldChannelID then
      [⟨name.text ++ CString.ofString " left the channel.", body, .NORMAL⟩] else []) ++
    (if L.ownChannel? S = some newChannelID then
      [⟨name.text ++ CString.ofString " joined the channel.", body, .NORMAL⟩] else [])
  | none => []

end ClientLib

/-- The calls of `notify` that requests are assembled into. -/
def builtCalls (ns : List (Notification Str)) : List (Except Overflow NotifyCall) :=
  ns.map fun n => (n.map Str.text).toCall

/-! ## Section 2: One report -/

section report

variable (L : ClientLib) (S : UInt64) (clientID : AnyID) (oldChannelID newChannelID : UInt64)

theorem ownChannelAnswer_atRest (s : Unit) :
    (ownChannelAnswer L.handler S s).1 = L.ownChannel? S := by
  have hid : clientIDAnswer L.handler S s = (L.clientID S, s) := rfl
  have hchannel : ∀ own, channelAnswer L.handler S s own = (L.channelOfClient S own, s) :=
    fun _ => rfl
  unfold ownChannelAnswer ClientLib.ownChannel?
  rw [hid]
  cases L.clientID S with
  | error c left => rfl
  | ok own =>
    dsimp only
    rw [hchannel]
    cases L.channelOfClient S own with
    | error c left => rfl
    | ok channel => rfl

/-- The two channel tests against a library at rest. -/
theorem requests_membership_atRest (client : Str) (mover : Option Str) (s : Unit) :
    requests ((decideMembership S client oldChannelID newChannelID mover).run L.handler s).trace =
      membershipReports (L.ownChannel? S) client oldChannelID newChannelID mover := by
  rw [requests_membership, ownChannelAnswer_atRest]
  rfl

theorem requests_named_atRest (mover : Option Str) (s : Unit) :
    requests ((decideNamed S clientID oldChannelID newChannelID mover).run L.handler s).trace =
      L.reports S clientID oldChannelID newChannelID mover := by
  rw [requests_named]
  simp only [requests_membership_atRest]
  unfold ClientLib.reports
  show (L.clientVariable S clientID CLIENT_NICKNAME).result?.elim [] _ = _
  cases (L.clientVariable S clientID CLIENT_NICKNAME).result? with
  | none => rfl
  | some name => rfl

/-- Nothing is reported if the own ID is not known: the channel tests miss. -/
theorem reports_of_unknown (hself : (L.clientID S).result? = none) (mover : Option Str) :
    L.reports S clientID oldChannelID newChannelID mover = [] := by
  have hhere : L.ownChannel? S = none := by
    unfold ClientLib.ownChannel?
    cases hid : L.clientID S with
    | error c left => rfl
    | ok own =>
      rw [hid] at hself
      cases hself
  unfold ClientLib.reports
  rw [hhere]
  cases (L.clientVariable S clientID CLIENT_NICKNAME).result? with
  | none => rfl
  | some name => rfl

/-- The texts of the reports. -/
theorem builtCalls_reports (mover : Option Str) :
    builtCalls (L.reports S clientID oldChannelID newChannelID mover) =
      (L.reportCalls S clientID oldChannelID newChannelID
        (Notification.moverText (mover.map Str.text))).map .ok := by
  unfold builtCalls ClientLib.reports ClientLib.reportCalls
  cases (L.clientVariable S clientID CLIENT_NICKNAME).result? with
  | none => rfl
  | some name =>
    dsimp only
    unfold membershipReports
    rw [List.map_append, List.map_append]
    congr 1
    · by_cases hold : L.ownChannel? S = some oldChannelID
      · simp only [hold, if_true, List.map_cons, List.map_nil, Notification.toCall_eq]
        rfl
      · simp only [hold, if_false, List.map_nil]
    · by_cases hnew : L.ownChannel? S = some newChannelID
      · simp only [hnew, if_true, List.map_cons, List.map_nil, Notification.toCall_eq]
        rfl
      · simp only [hnew, if_false, List.map_nil]

end report

/-! ## Section 3: The two callbacks -/

section callbacks

variable (L : ClientLib) (S : UInt64) (clientID : AnyID) (oldChannelID newChannelID : UInt64)

/-- The notifications `onClientMoveEvent` requests. -/
def moveEventRequests (u : Locals) : List (Notification Str) :=
  requests (Activation.serve L.handler
    ⟨.onClientMoveEvent S clientID oldChannelID newChannelID, u⟩ ()).trace

/-- The notifications `onClientMoveMovedEvent` requests. -/
def movedEventRequests (u : Locals) (moverID : AnyID) (moverName : CString) :
    List (Notification Str) :=
  requests (Activation.serve L.handler
    ⟨.onClientMoveMovedEvent S clientID oldChannelID newChannelID moverID moverName, u⟩ ()).trace

theorem moveEventRequests_eq (u : Locals) (hclient : L.clientID S ≠ .ok clientID) :
    moveEventRequests L S clientID oldChannelID newChannelID u =
      L.reports S clientID oldChannelID newChannelID none := by
  have hself : (L.clientID S).result? ≠ some clientID := by
    cases hid : L.clientID S with
    | error c left => simp
    | ok own =>
      intro hown
      rw [hid] at hclient
      exact hclient (congrArg _ (Option.some.inj hown))
  unfold moveEventRequests
  rw [serve_trace]
  show requests ((decideMove S clientID oldChannelID newChannelID).run L.handler ()).trace = _
  rw [requests_decideMove]
  show (if (L.clientID S).result? = some clientID then [] else _) = _
  rw [if_neg hself, requests_named_atRest]

theorem movedEventRequests_eq (u : Locals) (moverID : AnyID) (moverName : CString)
    (hmover : L.clientID S ≠ .ok moverID) :
    movedEventRequests L S clientID oldChannelID newChannelID u moverID moverName =
      L.reports S clientID oldChannelID newChannelID (some (.arg moverName)) := by
  have hself : (ownIDAnswer L.handler "onClientMoveMovedEvent" S ()) =
      ((L.clientID S).result?, ()) := rfl
  unfold movedEventRequests
  rw [serve_trace]
  show requests ((decideMoved S clientID oldChannelID newChannelID moverID moverName).run
    L.handler ()).trace = _
  rw [requests_decideMoved, hself]
  cases hid : L.clientID S with
  | error c left =>
    -- the callback stops here, its twin goes on to tests that miss
    have hunknown : (L.clientID S).result? = none := by rw [hid]; rfl
    rw [reports_of_unknown L S clientID oldChannelID newChannelID hunknown]
    rfl
  | ok own =>
    have hne : moverID ≠ own := by
      intro heq
      rw [hid, heq] at hmover
      exact hmover rfl
    simp only [Reply.result?_ok, Option.elim_some, if_pos hne, requests_named_atRest]

/-- **Agreement.** Of a move of another client by another client, both callbacks
    request the same reports under the same summaries. The bodies are empty,
    and name the mover. -/
theorem moves_agree (u u' : Locals) (moverID : AnyID) (moverName : CString)
    (hclient : L.clientID S ≠ .ok clientID) (hmover : L.clientID S ≠ .ok moverID) :
    moveEventRequests L S clientID oldChannelID newChannelID u =
        L.reports S clientID oldChannelID newChannelID none ∧
      movedEventRequests L S clientID oldChannelID newChannelID u' moverID moverName =
        L.reports S clientID oldChannelID newChannelID (some (.arg moverName)) ∧
      builtCalls (moveEventRequests L S clientID oldChannelID newChannelID u) =
        (L.reportCalls S clientID oldChannelID newChannelID (CString.ofString "")).map .ok ∧
      builtCalls (movedEventRequests L S clientID oldChannelID newChannelID u' moverID
          moverName) =
        (L.reportCalls S clientID oldChannelID newChannelID
          (CString.ofString "Was moved by " ++ moverName ++ CString.ofString ".")).map .ok := by
  have hmove := moveEventRequests_eq L S clientID oldChannelID newChannelID u hclient
  have hmoved := movedEventRequests_eq L S clientID oldChannelID newChannelID u' moverID
    moverName hmover
  refine ⟨hmove, hmoved, ?_, ?_⟩
  · rw [hmove]
    exact builtCalls_reports L S clientID oldChannelID newChannelID none
  · rw [hmoved]
    exact builtCalls_reports L S clientID oldChannelID newChannelID (some (.arg moverName))

end callbacks

/-- Client 3 moves client 2 into the lobby. -/
theorem moves_agree_lobby :
    let L := answering fun _ => lobby
    let bob := CString.ofString "Bob"
    moveEventRequests L 0 2 20 10 default = L.reports 0 2 20 10 none ∧
      movedEventRequests L 0 2 20 10 default 3 bob = L.reports 0 2 20 10 (some (.arg bob)) ∧
      builtCalls (moveEventRequests L 0 2 20 10 default) =
        (L.reportCalls 0 2 20 10 (CString.ofString "")).map .ok ∧
      builtCalls (movedEventRequests L 0 2 20 10 default 3 bob) =
        (L.reportCalls 0 2 20 10
          (CString.ofString "Was moved by " ++ bob ++ CString.ofString ".")).map .ok :=
  moves_agree (answering fun _ => lobby) 0 2 20 10 default default 3 (CString.ofString "Bob")
    (fun h => absurd (Reply.ok.inj h) (by decide)) (fun h => absurd (Reply.ok.inj h) (by decide))

end TeamspeakNotifications
