import TeamspeakNotifications.Model.Plugin

/-! # What the callbacks decide on

    A second description of the callbacks, in terms of what the plugin learns
    from its queries: the own client's ID or nothing, the own client's channel
    or nothing, a name or nothing. It has no locals, no three-valued results and
    no out-parameters.

    Every callback of `Plugin.lean` is, as a program, equal to its description
    here, whatever its uninitialised locals hold (`body_eq_decide`). The
    properties of the callbacks are proved from the descriptions:

    * `decide_of_compositional`: what holds of the calls and is kept by
      sequencing holds of every description.
    * `requests_decideEdited` ... `requests_decidePoke`: what a description
      requests, given the answers of the library.
-/

namespace TeamspeakNotifications

open Interaction CLib

/-! ## Section 1: Learning from queries -/

/-- The own client's ID, if the library knows it. -/
def askSelf (S : UInt64) : PluginM (Option AnyID) := do
  let r ← getClientID S
  return r.result?

/-- The own client's channel, if the library knows it. -/
def askOwnChannel (S : UInt64) : PluginM (Option UInt64) := do
  let r ← getClientID S
  match r with
  | .error _ _ =>
    logMessage "Could not get client ID." .ERROR S
    return none
  | .ok myID =>
    let r ← getChannelOfClient S myID
    match r with
    | .error _ _ =>
      logMessage "Could not get client's channel's ID." .DEBUG S
      return none
    | .ok channel => return some channel

/-- A name, if the library knows it; otherwise the failure is logged. -/
def withName (query : PluginM (Reply LibString)) (message : String) (S : UInt64)
    (act : LibString → PluginM Unit) : PluginM Unit := do
  let r ← query
  match r with
  | .ok name => act name
  | .error _ _ => logMessage message .ERROR S

/-! ## Section 2: Decisions -/

def decideEdited (S : UInt64) (channelID : UInt64) (invokerID : AnyID)
    (invokerName : CString) : PluginM Unit := do
  logMessage "onUpdateChannelEditedEvent" .DEBUG S
  let self ← askSelf S
  Prog.when (self ≠ some invokerID) do
    let here ← askOwnChannel S
    Prog.when (here = some channelID) (request (.notify_channel_edited (.arg invokerName)))

/-- Report a departure from the own channel, then an arrival in it. The own
    channel is asked for twice. -/
def decideMembership (S : UInt64) (client : Str) (oldChannelID newChannelID : UInt64)
    (mover : Option Str) : PluginM Unit := do
  let here ← askOwnChannel S
  Prog.when (here = some oldChannelID) (request (.notify_leave client mover))
  let here ← askOwnChannel S
  Prog.when (here = some newChannelID) (request (.notify_join client mover))

/-- Report the move of a client by its nickname. -/
def decideNamed (S : UInt64) (clientID : AnyID) (oldChannelID newChannelID : UInt64)
    (mover : Option Str) : PluginM Unit :=
  withName (getClientVariableAsString S clientID CLIENT_NICKNAME)
    "Could not get client nickname." S
    (fun name => decideMembership S (.lib name) oldChannelID newChannelID mover)

def decideMove (S : UInt64) (clientID : AnyID) (oldChannelID newChannelID : UInt64) :
    PluginM Unit := do
  logMessage "onClientMoveEvent" .DEBUG S
  let self ← askSelf S
  Prog.when (self ≠ some clientID) (decideNamed S clientID oldChannelID newChannelID none)

def decideMoved (S : UInt64) (clientID : AnyID) (oldChannelID newChannelID : UInt64)
    (moverID : AnyID) (moverName : CString) : PluginM Unit := do
  logMessage "onClientMoveMovedEvent" .DEBUG S
  let self ← askSelf S
  match self with
  | none => return
  | some myID =>
    if moverID = myID then
      Prog.when (clientID ≠ myID)
        (withName (getChannelVariableAsString S newChannelID CHANNEL_NAME)
          "Could not get channel name." S
          (fun name => request (.notify_move (.lib name) (.arg moverName))))
    else decideNamed S clientID oldChannelID newChannelID (some (.arg moverName))

def decideServerMessage (S : UInt64) (fromName message : CString) : PluginM Unit :=
  withName (getServerVariableAsString S VIRTUALSERVER_NAME) "Could not get server name." S
    (fun name => do
      request (.notify_server_message (.lib name) (.arg fromName) (.arg message))
      freeMemory name)

def decideChannelMessage (S : UInt64) (myID : AnyID) (fromName message : CString) :
    PluginM Unit := do
  let r ← getChannelOfClient S myID
  match r with
  | .error _ _ => logMessage "Could not get current channel's ID." .ERROR S
  | .ok channel =>
    withName (getChannelVariableAsString S channel CHANNEL_NAME)
      "Could not get channel name." S
      (fun name => do
        request (.notify_channel_message (.lib name) (.arg fromName) (.arg message))
        freeMemory name)

def decideTextMessage (S : UInt64) (targetMode fromID : AnyID) (fromName message : CString)
    (ffIgnored : Int) : PluginM Unit := do
  logMessage "onTextMessageEvent" .DEBUG S
  Prog.when (ffIgnored = 0) do
    let self ← askSelf S
    match self with
    | none => return
    | some myID =>
      Prog.when (fromID ≠ myID)
        (if targetMode = TextMessageTarget_SERVER then decideServerMessage S fromName message
        else if targetMode = TextMessageTarget_CHANNEL then
          decideChannelMessage S myID fromName message
        else if targetMode = TextMessageTarget_CLIENT then
          request (.notify_private_message (.arg fromName) (.arg message))
        else logMessage "Unexpected TextMessageTarget." .WARNING S)

def decidePoke (S : UInt64) (fromClientID : AnyID) (pokerName message : CString)
    (ffIgnored : Int) : PluginM Unit := do
  logMessage "onClientPokeEvent" .DEBUG S
  Prog.when (ffIgnored = 0) do
    let self ← askSelf S
    Prog.when (self ≠ some fromClientID)
      (request (.notify_poke (.arg pokerName) (.arg message)))

namespace Callback

/-- What a callback does. -/
def decide : Callback → PluginM Unit
  | .onUpdateChannelEditedEvent S channelID invokerID invokerName =>
    decideEdited S channelID invokerID invokerName
  | .onClientMoveEvent S clientID oldChannelID newChannelID =>
    decideMove S clientID oldChannelID newChannelID
  | .onClientMoveMovedEvent S clientID oldChannelID newChannelID moverID moverName =>
    decideMoved S clientID oldChannelID newChannelID moverID moverName
  | .onTextMessageEvent S targetMode fromID fromName message ffIgnored =>
    decideTextMessage S targetMode fromID fromName message ffIgnored
  | .onClientPokeEvent S fromClientID pokerName message ffIgnored =>
    decidePoke S fromClientID pokerName message ffIgnored
  | .stub _ _ => pure ()

/-- What a callback returns: the two that return an `int` always return 0. -/
def result : Callback → Option Int
  | .onTextMessageEvent _ _ _ _ _ _ => some 0
  | .onClientPokeEvent _ _ _ _ _ => some 0
  | _ => none

end Callback

/-! ## Section 3: The callbacks as decisions -/

section refinement

variable {β : Type}

/-- What follows a call of `current_client` may be described by the own ID. -/
theorem current_client_bind (S : UInt64) (other client : AnyID)
    (f : Int × AnyID → PluginM β) (g : Option AnyID → PluginM β)
    (hself : f (1, other) = g (some other))
    (hother : ∀ id, id ≠ other → f (0, id) = g (some id))
    (hnone : ∀ id, f (-1, id) = g none) :
    current_client S other client >>= f = askSelf S >>= g := by
  unfold current_client askSelf
  rw [bind_assoc, bind_assoc]
  apply bind_congr
  intro r
  cases r with
  | ok id =>
    by_cases hid : other = id
    · subst hid
      simpa using hself
    · simpa [hid] using hother id (Ne.symm hid)
  | error c left => simpa using hnone _

/-- What follows a call of `current_channel` may be described by the own
    channel, provided it does not look at the out-parameter. -/
theorem current_channel_bind (S : UInt64) (other current : UInt64) (myID : AnyID)
    (f : Int × UInt64 → PluginM β) (g : Option UInt64 → PluginM β)
    (hhere : ∀ x, f (1, x) = g (some other))
    (helse : ∀ c x, c ≠ other → f (0, x) = g (some c))
    (hnone : ∀ x, f (-1, x) = g none) :
    current_channel S other current myID >>= f = askOwnChannel S >>= g := by
  unfold current_channel askOwnChannel
  rw [bind_assoc, bind_assoc]
  apply bind_congr
  intro r
  cases r with
  | error c left => simp [hnone]
  | ok id =>
    simp only [Reply.code_ok, ne_eq, not_true_eq_false, if_false, Reply.store_ok, bind_assoc]
    apply bind_congr
    intro r
    cases r with
    | error c left => simp [hnone]
    | ok channel =>
      by_cases hc : other = channel
      · subst hc
        simpa using hhere other
      · simpa [hc] using helse channel channel (Ne.symm hc)

/-- What follows a string query may be described by the name. -/
theorem withName_eq (query : PluginM (Reply LibString)) (message : String) (S : UInt64)
    (name : LibString) (act : LibString → PluginM Unit) :
    (do
      let r ← query
      if r.code = ERROR_ok then act (r.store name) else logMessage message .ERROR S) =
    withName query message S act := by
  unfold withName
  apply bind_congr
  intro r
  cases r with
  | ok v => simp
  | error c left => simp

theorem edited_eq_decide (u : Locals) (S : UInt64) (channelID : UInt64) (invokerID : AnyID)
    (invokerName : CString) :
    ts3plugin_onUpdateChannelEditedEvent u S channelID invokerID invokerName =
      decideEdited S channelID invokerID invokerName := by
  unfold ts3plugin_onUpdateChannelEditedEvent decideEdited
  apply bind_congr
  intro _
  have hchannel : (do
        let here ← current_channel S channelID u.currentID (u.innerID 0)
        Prog.when (here.1 = 1) (request (.notify_channel_edited (.arg invokerName)))) =
      (do
        let here ← askOwnChannel S
        Prog.when (here = some channelID)
          (request (.notify_channel_edited (.arg invokerName)))) :=
    current_channel_bind S channelID _ _ _ _ (by simp)
      (by intro c _ hc; simp [hc]) (by simp)
  apply current_client_bind
  · simp
  · intro id hid
    simpa [hid] using hchannel
  · intro id
    -- here -1 and 0 are treated alike
    simpa using hchannel

theorem report_membership_eq_decide (u : Locals) (S : UInt64) (client : Str)
    (oldChannelID newChannelID : UInt64) (mover : Option Str) :
    report_membership u S client oldChannelID newChannelID mover =
      decideMembership S client oldChannelID newChannelID mover := by
  unfold report_membership decideMembership
  have hnew : ∀ current, (do
        let new ← current_channel S newChannelID current (u.innerID 1)
        Prog.when (new.1 = 1) (request (.notify_join client mover))) =
      (do
        let here ← askOwnChannel S
        Prog.when (here = some newChannelID) (request (.notify_join client mover))) :=
    fun current => current_channel_bind S newChannelID current _ _ _ (by simp)
      (by intro c _ hc; simp [hc]) (by simp)
  apply current_channel_bind
  · intro x
    simp [hnew]
  · intro c x hc
    simp [hnew, hc]
  · intro x
    simp [hnew]

/-- The nickname branch of the two move callbacks. -/
theorem named_eq_decide (u : Locals) (S : UInt64) (clientID : AnyID)
    (oldChannelID newChannelID : UInt64) (mover : Option Str) :
    (do
      let r ← getClientVariableAsString S clientID CLIENT_NICKNAME
      if r.code = ERROR_ok then
        report_membership u S (.lib (r.store u.clientname)) oldChannelID newChannelID mover
      else logMessage "Could not get client nickname." .ERROR S) =
    decideNamed S clientID oldChannelID newChannelID mover := by
  simp only [report_membership_eq_decide]
  exact withName_eq _ _ S u.clientname
    (fun name => decideMembership S (.lib name) oldChannelID newChannelID mover)

theorem move_eq_decide (u : Locals) (S : UInt64) (clientID : AnyID)
    (oldChannelID newChannelID : UInt64) :
    ts3plugin_onClientMoveEvent u S clientID oldChannelID newChannelID =
      decideMove S clientID oldChannelID newChannelID := by
  unfold ts3plugin_onClientMoveEvent decideMove
  apply bind_congr
  intro _
  have hnamed := named_eq_decide u S clientID oldChannelID newChannelID none
  apply current_client_bind
  · simp
  · intro id hid
    simpa [hid] using hnamed
  · intro id
    simpa using hnamed

theorem moved_eq_decide (u : Locals) (S : UInt64) (clientID : AnyID)
    (oldChannelID newChannelID : UInt64) (moverID : AnyID) (moverName : CString) :
    ts3plugin_onClientMoveMovedEvent u S clientID oldChannelID newChannelID moverID
        moverName =
      decideMoved S clientID oldChannelID newChannelID moverID moverName := by
  unfold ts3plugin_onClientMoveMovedEvent decideMoved
  apply bind_congr
  intro _
  have hnamed := named_eq_decide u S clientID oldChannelID newChannelID
    (some (.arg moverName))
  have hmove := withName_eq (getChannelVariableAsString S newChannelID CHANNEL_NAME)
    "Could not get channel name." S u.channelname
    (fun name => request (.notify_move (.lib name) (.arg moverName)))
  apply current_client_bind
  · -- the own client is the mover: was it itself that moved?
    by_cases hc : clientID = moverID
    · simp [hc]
    · simpa [hc] using hmove
  · intro id hid
    simpa [Ne.symm hid] using hnamed
  · intro id
    simp

theorem server_message_eq_decide (u : Locals) (S : UInt64) (fromName message : CString) :
    send_server_message_notification u S fromName message =
      decideServerMessage S fromName message :=
  withName_eq (getServerVariableAsString S VIRTUALSERVER_NAME) "Could not get server name." S
    u.servername (fun name => do
      request (.notify_server_message (.lib name) (.arg fromName) (.arg message))
      freeMemory name)

theorem channel_message_eq_decide (u : Locals) (S : UInt64) (myID : AnyID)
    (fromName message : CString) :
    send_channel_message_notification u S myID fromName message =
      decideChannelMessage S myID fromName message := by
  unfold send_channel_message_notification decideChannelMessage
  apply bind_congr
  intro r
  cases r with
  | error c left => simp
  | ok channel =>
    simpa using withName_eq (getChannelVariableAsString S channel CHANNEL_NAME)
      "Could not get channel name." S u.channelname (fun name => do
        request (.notify_channel_message (.lib name) (.arg fromName) (.arg message))
        freeMemory name)

theorem textMessage_eq_decide (u : Locals) (S : UInt64) (targetMode fromID : AnyID)
    (fromName message : CString) (ffIgnored : Int) :
    ts3plugin_onTextMessageEvent u S targetMode fromID fromName message ffIgnored =
      (do
        decideTextMessage S targetMode fromID fromName message ffIgnored
        return 0) := by
  unfold ts3plugin_onTextMessageEvent decideTextMessage
  rw [bind_assoc]
  apply bind_congr
  intro _
  by_cases hff : ffIgnored = 0
  · simp only [hff, ne_eq, not_true_eq_false, if_false, Prog.when_true, bind_assoc]
    apply current_client_bind
    · simp
    · intro id hid
      simp only [Ne.symm hid, not_false_eq_true, if_true, Prog.when_true,
        server_message_eq_decide, channel_message_eq_decide]
      split_ifs <;> rfl
    · intro id
      simp
  · simp [hff]

theorem poke_eq_decide (u : Locals) (S : UInt64) (fromClientID : AnyID)
    (pokerName message : CString) (ffIgnored : Int) :
    ts3plugin_onClientPokeEvent u S fromClientID pokerName message ffIgnored =
      (do
        decidePoke S fromClientID pokerName message ffIgnored
        return 0) := by
  unfold ts3plugin_onClientPokeEvent decidePoke
  rw [bind_assoc]
  apply bind_congr
  intro _
  by_cases hff : ffIgnored = 0
  · simp only [hff, ne_eq, not_true_eq_false, if_false, Prog.when_true, bind_assoc]
    apply current_client_bind
    · simp
    · intro id hid
      simp [hid]
    · intro id
      simp
  · simp [hff]

/-- **Refinement.** A callback is the program that its decision describes,
    whatever its uninitialised locals hold. -/
theorem body_eq_decide (u : Locals) (c : Callback) :
    c.body u = (do c.decide; return c.result) := by
  cases c with
  | onUpdateChannelEditedEvent S channelID invokerID invokerName =>
    simp only [Callback.body, edited_eq_decide]; rfl
  | onClientMoveEvent S clientID oldChannelID newChannelID =>
    simp only [Callback.body, move_eq_decide]; rfl
  | onClientMoveMovedEvent S clientID oldChannelID newChannelID moverID moverName =>
    simp only [Callback.body, moved_eq_decide]; rfl
  | onTextMessageEvent S targetMode fromID fromName message ffIgnored =>
    simp only [Callback.body, textMessage_eq_decide, bind_assoc, pure_bind]; rfl
  | onClientPokeEvent S fromClientID pokerName message ffIgnored =>
    simp only [Callback.body, poke_eq_decide, bind_assoc, pure_bind]; rfl
  | stub S which => rfl

end refinement

/-! ## Section 4: Serving a callback -/

section serve

variable {σ : Type} (h : Library σ) (a : Activation) (s : σ)

theorem serve_trace : (a.serve h s).trace = (a.callback.decide.run h s).trace := by
  unfold Activation.serve
  rw [body_eq_decide, Prog.run_bind]
  simp

theorem serve_after : (a.serve h s).after = (a.callback.decide.run h s).state := by
  unfold Activation.serve
  rw [body_eq_decide, Prog.run_bind]
  simp

theorem serve_value : (a.serve h s).value = a.callback.result := by
  unfold Activation.serve
  rw [body_eq_decide, Prog.run_bind]
  simp

/-- The steps of a run are served from the states they find. -/
theorem serve_of_mem {acts : List Activation} {st : Step σ} (hst : st ∈ runCallbacks h acts s) :
    st = st.activation.serve h st.before := by
  induction acts generalizing s with
  | nil => cases hst
  | cons a as ih =>
    rcases List.mem_cons.mp hst with rfl | hst
    · rfl
    · exact ih _ hst

end serve

/-! ## Section 5: What decisions inherit from their calls -/

section compositional

/-- `P` holds of a query with what follows it, if it does whatever the answer is
    and if failures are treated alike. -/
def Handles (P : (α : Type) → PluginM α → Prop) {γ : Type} (query : PluginM (Reply γ)) :
    Prop :=
  ∀ {β : Type} {f : Reply γ → PluginM β} (failed : PluginM β),
    (∀ v, P β (f (.ok v))) → (∀ c left, f (.error c left) = failed) → P β failed →
      P β (query >>= f)

/-- A property of programs that sequencing keeps and that holds of the calls
    about the connection `S`. -/
structure Compositional (S : UInt64) (P : (α : Type) → PluginM α → Prop) : Prop where
  pure : ∀ {α : Type} (a : α), P α (Pure.pure a)
  bind : ∀ {α β : Type} {p : PluginM α} {f : α → PluginM β}, P α p → (∀ a, P β (f a)) →
    P β (p >>= f)
  log : ∀ message severity, P Unit (logMessage message severity S)
  free : ∀ p, P Unit (freeMemory p)
  shows : ∀ n, P Unit (request n)
  clientID : Handles P (getClientID S)
  channelOfClient : ∀ client, Handles P (getChannelOfClient S client)
  clientVariable : ∀ client flag, Handles P (getClientVariableAsString S client flag)
  channelVariable : ∀ channel flag, Handles P (getChannelVariableAsString S channel flag)
  serverVariable : ∀ flag, Handles P (getServerVariableAsString S flag)

namespace Compositional

variable {S : UInt64} {P : (α : Type) → PluginM α → Prop} (K : Compositional S P)
include K

theorem when {b : Prop} [Decidable b] {p : PluginM Unit} (hp : P Unit p) :
    P Unit (Prog.when b p) := by
  by_cases hb : b
  · rw [Prog.when_pos hb]
    exact hp
  · rw [Prog.when_neg hb]
    exact K.pure ()

theorem self : P _ (askSelf S) := by
  unfold askSelf
  apply K.clientID (Pure.pure none)
  · intro id
    exact K.pure _
  · intro c left
    rfl
  · exact K.pure _

theorem entry (event : String) {β : Type} {f : Option AnyID → PluginM β}
    (hf : ∀ self, P β (f self)) :
    P β (do logMessage event .DEBUG S; let self ← askSelf S; f self) := by
  apply K.bind (K.log event .DEBUG)
  intro _
  exact K.bind K.self hf

theorem ownChannel : P _ (askOwnChannel S) := by
  unfold askOwnChannel
  apply K.clientID (do logMessage "Could not get client ID." .ERROR S; return none)
  · intro id
    apply K.channelOfClient id
      (do logMessage "Could not get client's channel's ID." .DEBUG S; return none)
    · intro channel
      exact K.pure _
    · intro c left
      rfl
    · exact K.bind (K.log _ _) fun _ => K.pure _
  · intro c left
    rfl
  · exact K.bind (K.log _ _) fun _ => K.pure _

theorem named {query : PluginM (Reply LibString)} (hquery : Handles P query) (message : String)
    {act : LibString → PluginM Unit} (hact : ∀ name, P Unit (act name)) :
    P Unit (withName query message S act) :=
  hquery _ hact (fun _ _ => rfl) (K.log message .ERROR)

/-- A name that is shown and then released. -/
theorem borrowed {query : PluginM (Reply LibString)} (hquery : Handles P query)
    (message : String) (shown : LibString → Notification Str) :
    P Unit (withName query message S (fun name => do
      request (shown name)
      freeMemory name)) := by
  apply K.named hquery
  intro name
  exact K.bind (K.shows _) fun _ => K.free name

theorem decideNamed (clientID : AnyID) (oldChannelID newChannelID : UInt64)
    (mover : Option Str) :
    P Unit (TeamspeakNotifications.decideNamed S clientID oldChannelID newChannelID mover) := by
  apply K.named (K.clientVariable _ _)
  intro name
  apply K.bind K.ownChannel
  intro here
  apply K.bind (K.when (K.shows _))
  intro _
  apply K.bind K.ownChannel
  intro here
  exact K.when (K.shows _)

theorem decideEdited (channelID : UInt64) (invokerID : AnyID) (invokerName : CString) :
    P Unit (TeamspeakNotifications.decideEdited S channelID invokerID invokerName) := by
  apply K.entry
  intro self
  apply K.when
  apply K.bind K.ownChannel
  intro here
  exact K.when (K.shows _)

theorem decideMove (clientID : AnyID) (oldChannelID newChannelID : UInt64) :
    P Unit (TeamspeakNotifications.decideMove S clientID oldChannelID newChannelID) := by
  apply K.entry
  intro self
  exact K.when (K.decideNamed _ _ _ _)

theorem decideMoved (clientID : AnyID) (oldChannelID newChannelID : UInt64)
    (moverID : AnyID) (moverName : CString) :
    P Unit (TeamspeakNotifications.decideMoved S clientID oldChannelID newChannelID moverID
      moverName) := by
  apply K.entry
  intro self
  cases self with
  | none => exact K.pure ()
  | some myID =>
    dsimp only
    split_ifs
    · apply K.when
      exact K.named (K.channelVariable _ _) _ fun name => K.shows _
    · exact K.decideNamed _ _ _ _

theorem decideChannelMessage (myID : AnyID) (fromName message : CString) :
    P Unit (TeamspeakNotifications.decideChannelMessage S myID fromName message) := by
  apply K.channelOfClient myID (logMessage "Could not get current channel's ID." .ERROR S)
  · intro channel
    exact K.borrowed (K.channelVariable _ _) _ _
  · intro c left
    rfl
  · exact K.log _ _

theorem decideTextMessage (targetMode fromID : AnyID) (fromName message : CString)
    (ffIgnored : Int) :
    P Unit (TeamspeakNotifications.decideTextMessage S targetMode fromID fromName message
      ffIgnored) := by
  apply K.bind (K.log _ _)
  intro _
  apply K.when
  apply K.bind K.self
  intro self
  cases self with
  | none => exact K.pure ()
  | some myID =>
    apply K.when
    -- the switch over `targetMode`
    split_ifs
    · exact K.borrowed (K.serverVariable _) _ _
    · exact K.decideChannelMessage myID fromName message
    · exact K.shows _
    · exact K.log _ _

theorem decidePoke (fromClientID : AnyID) (pokerName message : CString) (ffIgnored : Int) :
    P Unit (TeamspeakNotifications.decidePoke S fromClientID pokerName message ffIgnored) := by
  apply K.bind (K.log _ _)
  intro _
  apply K.when
  apply K.bind K.self
  intro self
  exact K.when (K.shows _)

end Compositional

/-- **Inheritance.** A compositional property holds of every decision. -/
theorem decide_of_compositional {P : (α : Type) → PluginM α → Prop} (c : Callback)
    (K : Compositional c.connection P) : P Unit c.decide := by
  cases c with
  | onUpdateChannelEditedEvent S channelID invokerID invokerName =>
    exact K.decideEdited channelID invokerID invokerName
  | onClientMoveEvent S clientID oldChannelID newChannelID =>
    exact K.decideMove clientID oldChannelID newChannelID
  | onClientMoveMovedEvent S clientID oldChannelID newChannelID moverID moverName =>
    exact K.decideMoved clientID oldChannelID newChannelID moverID moverName
  | onTextMessageEvent S targetMode fromID fromName message ffIgnored =>
    exact K.decideTextMessage targetMode fromID fromName message ffIgnored
  | onClientPokeEvent S fromClientID pokerName message ffIgnored =>
    exact K.decidePoke fromClientID pokerName message ffIgnored
  | stub S which => exact K.pure ()

end compositional

/-! ## Section 6: Bounds on the calls -/

section calls

variable {P : Call → Prop} {S : UInt64}

theorem logMessage_calls (hlog : ∀ m l, P (.logMessage m l ts3plugin_name S))
    (message : String) (severity : LogLevel) : (logMessage message severity S).Calls P :=
  (Prog.calls_perform _).mpr (hlog _ _)

theorem askSelf_calls (hid : P (.getClientID S)) : (askSelf S).Calls P :=
  Prog.Calls.bind ((Prog.calls_perform _).mpr hid) fun _ => trivial

/-- The calls a callback starts with, and those that follow. -/
theorem entry_calls (hlog : ∀ m l, P (.logMessage m l ts3plugin_name S))
    (hid : P (.getClientID S)) (event : String) {β : Type} {f : Option AnyID → PluginM β}
    (hf : ∀ self, (f self).Calls P) :
    (do logMessage event .DEBUG S; let self ← askSelf S; f self).Calls P := by
  apply (logMessage_calls hlog event .DEBUG).bind
  intro _
  exact (askSelf_calls hid).bind hf

theorem askOwnChannel_calls (hlog : ∀ m l, P (.logMessage m l ts3plugin_name S))
    (hid : P (.getClientID S)) (hchannel : ∀ c, P (.getChannelOfClient S c)) :
    (askOwnChannel S).Calls P := by
  unfold askOwnChannel
  have hquery : (getClientID S).Calls P := (Prog.calls_perform _).mpr hid
  apply hquery.bind
  intro r
  cases r with
  | error c left => exact (logMessage_calls hlog _ _).bind fun _ => trivial
  | ok id =>
    have hquery' : (getChannelOfClient S id).Calls P := (Prog.calls_perform _).mpr (hchannel id)
    apply hquery'.bind
    intro r
    cases r with
    | error c left => exact (logMessage_calls hlog _ _).bind fun _ => trivial
    | ok channel => trivial

theorem decideMembership_calls (hlog : ∀ m l, P (.logMessage m l ts3plugin_name S))
    (hid : P (.getClientID S)) (hchannel : ∀ c, P (.getChannelOfClient S c)) {client : Str}
    {mover : Option Str} (hleave : P (.request (.notify_leave client mover)))
    (hjoin : P (.request (.notify_join client mover))) (oldChannelID newChannelID : UInt64) :
    (decideMembership S client oldChannelID newChannelID mover).Calls P := by
  have hask : (askOwnChannel S).Calls P := askOwnChannel_calls hlog hid hchannel
  have hleave' : (request (.notify_leave client mover)).Calls P :=
    (Prog.calls_perform _).mpr hleave
  have hjoin' : (request (.notify_join client mover)).Calls P :=
    (Prog.calls_perform _).mpr hjoin
  apply hask.bind
  intro here
  apply hleave'.when.bind
  intro _
  exact hask.bind fun _ => hjoin'.when

end calls

/-! ## Section 7: What the library answers -/

section answers

variable {σ : Type} (h : Library σ) (event : String) (S : UInt64) (s : σ)

/-- The answer to `getClientID`, and the library's state after it. -/
def clientIDAnswer : Reply AnyID × σ := h (.getClientID S) s

/-- The answer to `getChannelOfClient`, and the library's state after it. -/
def channelAnswer (client : AnyID) : Reply UInt64 × σ := h (.getChannelOfClient S client) s

/-- The answer to a query of a nickname, and the library's state after it. -/
def nicknameAnswer (client : AnyID) : Reply LibString × σ :=
  h (.getClientVariableAsString S client CLIENT_NICKNAME) s

/-- The answer to a query of a channel's name, and the library's state after it. -/
def channelNameAnswer (channel : UInt64) : Reply LibString × σ :=
  h (.getChannelVariableAsString S channel CHANNEL_NAME) s

/-- The answer to a query of the server's name, and the library's state after it. -/
def serverNameAnswer : Reply LibString × σ :=
  h (.getServerVariableAsString S VIRTUALSERVER_NAME) s

/-- The own client's channel as the library answers from the state `s` on, and
    its state after that; a failure is logged. -/
def ownChannelAnswer : Option UInt64 × σ :=
  match clientIDAnswer h S s with
  | (.error _ _, s₁) =>
    (none, ((logMessage "Could not get client ID." .ERROR S).run h s₁).state)
  | (.ok myID, s₁) =>
    match channelAnswer h S s₁ myID with
    | (.error _ _, s₂) =>
      (none, ((logMessage "Could not get client's channel's ID." .DEBUG S).run h s₂).state)
    | (.ok channelID, s₂) => (some channelID, s₂)

/-- The own client's ID as the library answers it to a callback that has logged
    its event, and the library's state after that. -/
def ownIDAnswer : Option AnyID × σ :=
  let answer := clientIDAnswer h S ((logMessage event .DEBUG S).run h s).state
  (answer.1.result?, answer.2)

theorem run_getClientID : (getClientID S).run h s =
    ⟨(clientIDAnswer h S s).1, (clientIDAnswer h S s).2,
      [⟨.getClientID S, (clientIDAnswer h S s).1⟩]⟩ := rfl

theorem run_getChannelOfClient (client : AnyID) : (getChannelOfClient S client).run h s =
    ⟨(channelAnswer h S s client).1, (channelAnswer h S s client).2,
      [⟨.getChannelOfClient S client, (channelAnswer h S s client).1⟩]⟩ := rfl

theorem run_getNickname (client : AnyID) :
    (getClientVariableAsString S client CLIENT_NICKNAME).run h s =
      ⟨(nicknameAnswer h S s client).1, (nicknameAnswer h S s client).2,
        [⟨.getClientVariableAsString S client CLIENT_NICKNAME,
          (nicknameAnswer h S s client).1⟩]⟩ := rfl

theorem run_getChannelName (channel : UInt64) :
    (getChannelVariableAsString S channel CHANNEL_NAME).run h s =
      ⟨(channelNameAnswer h S s channel).1, (channelNameAnswer h S s channel).2,
        [⟨.getChannelVariableAsString S channel CHANNEL_NAME,
          (channelNameAnswer h S s channel).1⟩]⟩ := rfl

theorem run_askOwnChannel :
    (((askOwnChannel S).run h s).value, ((askOwnChannel S).run h s).state) =
      ownChannelAnswer h S s := by
  unfold ownChannelAnswer askOwnChannel
  rw [Prog.run_bind, run_getClientID]
  -- both sides branch on the same two answers
  generalize clientIDAnswer h S s = answer
  rcases answer with ⟨id, s₁⟩
  cases id with
  | error c left => rfl
  | ok myID =>
    simp only [Prog.run_bind, run_getChannelOfClient]
    generalize channelAnswer h S s₁ myID = answer
    obtain ⟨channel, s₂⟩ := answer
    cases channel with
    | error c left => rfl
    | ok channelID => rfl

/-- A callback that logs its event and asks for the own ID. -/
theorem run_entry {β : Type} (f : Option AnyID → PluginM β) :
    (do logMessage event .DEBUG S; let self ← askSelf S; f self).run h s =
      let rest := (f (ownIDAnswer h event S s).1).run h (ownIDAnswer h event S s).2
      ⟨rest.value, rest.state,
        ((do logMessage event .DEBUG S; askSelf S).run h s).trace ++ rest.trace⟩ := by
  rfl

end answers

/-! ## Section 8: What is requested -/

section requested

variable {σ : Type} (h : Library σ) (S : UInt64) (s : σ)

/-- The call is not a request. -/
def NoRequest : Call → Prop
  | .request _ => False
  | _ => True

theorem requests_of_noRequest {α : Type} {p : PluginM α} (hp : p.Calls NoRequest) :
    requests (p.run h s).trace = [] := by
  apply List.filterMap_eq_nil_iff.mpr
  intro e he
  have hno : NoRequest e.call := hp.run_trace h s e he
  obtain ⟨c, r⟩ := e
  cases c with
  | request n => exact hno.elim
  | logMessage | getClientID | getChannelOfClient | getClientVariableAsString
  | getChannelVariableAsString | getServerVariableAsString | freeMemory => rfl

@[simp] theorem requests_askOwnChannel : requests ((askOwnChannel S).run h s).trace = [] :=
  requests_of_noRequest h s (askOwnChannel_calls (fun _ _ => trivial) trivial fun _ => trivial)

@[simp] theorem requests_when (b : Prop) [Decidable b] (n : Notification Str) :
    requests ((Prog.when b (request n)).run h s).trace = if b then [n] else [] := by
  by_cases hb : b
  · rw [Prog.when_pos hb, if_pos hb]
    rfl
  · rw [Prog.when_neg hb, if_neg hb]
    rfl

/-- Nothing is requested before a callback knows about the own ID. -/
theorem requests_entry (event : String) {β : Type} (f : Option AnyID → PluginM β) :
    requests ((do logMessage event .DEBUG S; let self ← askSelf S; f self).run h s).trace =
      requests ((f (ownIDAnswer h event S s).1).run h (ownIDAnswer h event S s).2).trace := by
  rw [run_entry]
  rfl

/-- A request under the condition that the own client is in a given channel. -/
theorem requests_here (channelID : UInt64) (n : Notification Str) :
    requests ((do
      let here ← askOwnChannel S
      Prog.when (here = some channelID) (request n)).run h s).trace =
    if (ownChannelAnswer h S s).1 = some channelID then [n] else [] := by
  rw [Prog.run_bind, ← run_askOwnChannel]
  simp only [requests_append, requests_askOwnChannel, requests_when, List.nil_append]

/-- The library's state when the second channel test begins: a departure may
    have been reported in between. -/
def afterLeave (client : Str) (oldChannelID : UInt64) (mover : Option Str) : σ :=
  if (ownChannelAnswer h S s).1 = some oldChannelID then
    (h (.request (.notify_leave client mover)) (ownChannelAnswer h S s).2).2
  else (ownChannelAnswer h S s).2

/-- The two channel tests, each with the channel that it is answered. -/
theorem requests_membership (client : Str) (oldChannelID newChannelID : UInt64)
    (mover : Option Str) :
    requests ((decideMembership S client oldChannelID newChannelID mover).run h s).trace =
      (if (ownChannelAnswer h S s).1 = some oldChannelID then [.notify_leave client mover]
        else []) ++
      (if (ownChannelAnswer h S (afterLeave h S s client oldChannelID mover)).1 =
          some newChannelID then [.notify_join client mover] else []) := by
  unfold decideMembership afterLeave
  rw [Prog.run_bind, ← run_askOwnChannel]
  simp only [requests_append, requests_askOwnChannel, List.nil_append]
  rw [Prog.run_bind, requests_append, requests_when, requests_here]
  by_cases hold : ((askOwnChannel S).run h s).value = some oldChannelID
  · rw [Prog.when_pos hold, if_pos hold, if_pos hold]
    rfl
  · rw [Prog.when_neg hold, if_neg hold, if_neg hold]
    rfl

/-- The move of a client, reported under its nickname. -/
theorem requests_named (clientID : AnyID) (oldChannelID newChannelID : UInt64)
    (mover : Option Str) :
    requests ((decideNamed S clientID oldChannelID newChannelID mover).run h s).trace =
      (nicknameAnswer h S s clientID).1.result?.elim [] (fun name =>
        requests ((decideMembership S (.lib name) oldChannelID newChannelID mover).run h
          (nicknameAnswer h S s clientID).2).trace) := by
  unfold decideNamed withName
  rw [Prog.run_bind, run_getNickname]
  generalize nicknameAnswer h S s clientID = answer
  obtain ⟨name, s₁⟩ := answer
  cases name with
  | error c left => rfl
  | ok name => rfl

/-- A request under the name of a channel. -/
theorem requests_channelNamed (channel : UInt64) (message : String)
    (shown : LibString → Notification Str) :
    requests ((withName (getChannelVariableAsString S channel CHANNEL_NAME) message S
      (fun name => request (shown name))).run h s).trace =
      (channelNameAnswer h S s channel).1.result?.elim [] (fun name => [shown name]) := by
  unfold withName
  rw [Prog.run_bind, run_getChannelName]
  generalize channelNameAnswer h S s channel = answer
  rcases answer with ⟨name, s₁⟩
  cases name with
  | error c left => rfl
  | ok name => rfl

/-- A request under a name that is released afterwards. -/
theorem requests_borrowed {query : PluginM (Reply LibString)}
    (hquery : requests (query.run h s).trace = []) (message : String)
    (shown : LibString → Notification Str) :
    requests ((withName query message S (fun name => do
      request (shown name)
      freeMemory name)).run h s).trace =
      ((query.run h s).value.result?.map shown).toList := by
  unfold withName
  rw [Prog.run_bind, requests_append, hquery]
  cases (query.run h s).value with
  | error c left => rfl
  | ok name => rfl

/-- The notification of a text message from somebody else, if what it is shown
    under is known. -/
def textNotification (targetMode myID : AnyID) (fromName message : CString) :
    Option (Notification Str) :=
  if targetMode = TextMessageTarget_SERVER then
    (serverNameAnswer h S s).1.result?.map fun name =>
      .notify_server_message (.lib name) (.arg fromName) (.arg message)
  else if targetMode = TextMessageTarget_CHANNEL then
    match channelAnswer h S s myID with
    | (.error _ _, _) => none
    | (.ok channel, s₁) => (channelNameAnswer h S s₁ channel).1.result?.map fun name =>
      .notify_channel_message (.lib name) (.arg fromName) (.arg message)
  else if targetMode = TextMessageTarget_CLIENT then
    some (.notify_private_message (.arg fromName) (.arg message))
  else none

/-- What is requested of an edit: of the own channel, by somebody else or by
    nobody known. -/
theorem requests_decideEdited (channelID : UInt64) (invokerID : AnyID) (invokerName : CString) :
    requests ((decideEdited S channelID invokerID invokerName).run h s).trace =
      let self := ownIDAnswer h "onUpdateChannelEditedEvent" S s
      if self.1 ≠ some invokerID ∧ (ownChannelAnswer h S self.2).1 = some channelID then
        [.notify_channel_edited (.arg invokerName)]
      else [] := by
  unfold decideEdited
  rw [requests_entry]
  by_cases hself : (ownIDAnswer h "onUpdateChannelEditedEvent" S s).1 = some invokerID
  · rw [Prog.when_neg (not_not.mpr hself)]
    simp only [hself, ne_eq, not_true_eq_false, false_and, if_false]
    rfl
  · rw [Prog.when_pos hself, requests_here]
    simp only [hself, ne_eq, not_false_eq_true, true_and]

/-- What is requested of a move, unless it is the own client's. -/
theorem requests_decideMove (clientID : AnyID) (oldChannelID newChannelID : UInt64) :
    requests ((decideMove S clientID oldChannelID newChannelID).run h s).trace =
      let self := ownIDAnswer h "onClientMoveEvent" S s
      if self.1 = some clientID then []
      else requests ((decideNamed S clientID oldChannelID newChannelID none).run h
        self.2).trace := by
  unfold decideMove
  rw [requests_entry]
  by_cases hself : (ownIDAnswer h "onClientMoveEvent" S s).1 = some clientID
  · rw [Prog.when_neg (not_not.mpr hself)]
    simp only [hself, if_true]
    rfl
  · rw [Prog.when_pos hself]
    simp only [hself, if_false]

/-- What is requested of a move by a client: if it is the own client, the move
    is taken for its own. -/
theorem requests_decideMoved (clientID : AnyID) (oldChannelID newChannelID : UInt64)
    (moverID : AnyID) (moverName : CString) :
    requests ((decideMoved S clientID oldChannelID newChannelID moverID moverName).run
        h s).trace =
      let self := ownIDAnswer h "onClientMoveMovedEvent" S s
      self.1.elim [] (fun myID =>
        if moverID ≠ myID then
          requests ((decideNamed S clientID oldChannelID newChannelID
            (some (.arg moverName))).run h self.2).trace
        else if clientID ≠ myID then
          (channelNameAnswer h S self.2 newChannelID).1.result?.elim [] (fun name =>
            [.notify_move (.lib name) (.arg moverName)])
        else []) := by
  unfold decideMoved
  rw [requests_entry]
  generalize ownIDAnswer h "onClientMoveMovedEvent" S s = answer
  rcases answer with ⟨self, s₁⟩
  cases self with
  | none => rfl
  | some myID =>
    dsimp only [Option.elim_some]
    by_cases hmover : moverID = myID
    · rw [if_pos hmover, if_neg (not_not.mpr hmover)]
      by_cases hclient : clientID = myID
      · rw [Prog.when_neg (not_not.mpr hclient), if_neg (not_not.mpr hclient)]
        rfl
      · rw [Prog.when_pos hclient, if_pos hclient, requests_channelNamed]
    · rw [if_neg hmover, if_pos hmover]

/-- The switch over `targetMode` requests the message's notification. -/
theorem requests_switch (targetMode myID : AnyID) (fromName message : CString) :
    requests ((if targetMode = TextMessageTarget_SERVER then
        decideServerMessage S fromName message
      else if targetMode = TextMessageTarget_CHANNEL then
        decideChannelMessage S myID fromName message
      else if targetMode = TextMessageTarget_CLIENT then
        request (.notify_private_message (.arg fromName) (.arg message))
      else logMessage "Unexpected TextMessageTarget." .WARNING S).run h s).trace =
      (textNotification h S s targetMode myID fromName message).toList := by
  unfold textNotification
  split_ifs
  · exact requests_borrowed h S s rfl "Could not get server name." _
  · unfold decideChannelMessage
    rw [Prog.run_bind, run_getChannelOfClient]
    generalize channelAnswer h S s myID = answer
    rcases answer with ⟨channel, s₁⟩
    cases channel with
    | error c left => rfl
    | ok channel => exact requests_borrowed h S s₁ rfl "Could not get channel name." _
  · rfl
  · rfl

/-- What is requested of a text message: its notification, if it is not ignored
    and somebody else's. -/
theorem requests_decideTextMessage (targetMode fromID : AnyID) (fromName message : CString)
    (ffIgnored : Int) :
    requests ((decideTextMessage S targetMode fromID fromName message ffIgnored).run
        h s).trace =
      let self := ownIDAnswer h "onTextMessageEvent" S s
      if ffIgnored = 0 then
        self.1.elim [] (fun myID =>
          if fromID = myID then []
          else (textNotification h S self.2 targetMode myID fromName message).toList)
      else [] := by
  unfold decideTextMessage
  by_cases hff : ffIgnored = 0
  · rw [Prog.when_pos hff, requests_entry]
    simp only [hff, if_true]
    generalize ownIDAnswer h "onTextMessageEvent" S s = answer
    rcases answer with ⟨self, s₁⟩
    cases self with
    | none => rfl
    | some myID =>
      by_cases hself : fromID = myID
      · simp only [Option.elim_some, Prog.when_neg (not_not.mpr hself), if_pos hself]
        rfl
      · simp only [Option.elim_some, Prog.when_pos hself, if_neg hself]
        exact requests_switch h S s₁ targetMode myID fromName message
  · rw [Prog.when_neg hff]
    simp only [hff, if_false]
    rfl

/-- What is requested of a poke, unless it is ignored or known to be the own
    client's. -/
theorem requests_decidePoke (fromClientID : AnyID) (pokerName message : CString)
    (ffIgnored : Int) :
    requests ((decidePoke S fromClientID pokerName message ffIgnored).run h s).trace =
      if ffIgnored = 0 ∧ (ownIDAnswer h "onClientPokeEvent" S s).1 ≠ some fromClientID then
        [.notify_poke (.arg pokerName) (.arg message)]
      else [] := by
  unfold decidePoke
  by_cases hff : ffIgnored = 0
  · rw [Prog.when_pos hff, requests_entry, requests_when]
    simp only [hff, true_and]
  · rw [Prog.when_neg hff]
    simp only [hff, false_and, if_false]
    rfl

end requested

end TeamspeakNotifications
