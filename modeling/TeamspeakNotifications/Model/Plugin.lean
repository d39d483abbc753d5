import TeamspeakNotifications.Model.ClientLib
import TeamspeakNotifications.Model.Config

/-! # Model of `plugin.c`

    The callbacks the TeamSpeak client calls on its events, as programs over
    the calls of the client library and the requests to `notify.c`.

    * `Locals`: what the uninitialised locals of a callback hold on entry.
    * `current_client` ... `send_channel_message_notification`: the local
      functions. A function with an out-parameter takes the variable's contents
      and returns them, as the second component of its result.
    * `ts3plugin_on...`: the callbacks that do something; the others, with an
      empty body, are listed in `Stub`.
    * `Callback`, `Activation`, `runCallbacks`: the plugin as a state machine
      that serves one callback after the other.
    * `ts3plugin_init`: the configuration and the welcome message.
    * `session`: a start of the plugin and the callbacks after it.

    Arguments that a callback does not read are left out. The only globals the
    source has besides the function table are `conf`, read in
    `show_welcome_message` alone, and `pluginID`, which is never set.
-/

namespace TeamspeakNotifications

open Interaction CLib

/-! ## Section 1: Local functions -/

/-- What the uninitialised locals hold. `innerID n` is `myID` in the `n`-th
    activation of `current_channel` by a callback. -/
structure Locals where
  myID : AnyID
  currentID : UInt64
  channelID : UInt64
  clientname : LibString
  channelname : LibString
  servername : LibString
  innerID : Nat → AnyID
  deriving Inhabited

def ts3plugin_name : CString := CString.ofString "TeamSpeak Notifications"

/-- `ts3Functions.logMessage`, as the plugin calls it. -/
def logMessage (message : String) (severity : LogLevel) (serverConnectionHandlerID : UInt64) :
    PluginM Unit :=
  @Prog.perform PluginSig (.logMessage (CString.ofString message) severity ts3plugin_name
    serverConnectionHandlerID)

/-- Return 1 if the client given is the same as the user client, otherwise 0.
    Will return -1 if an error occured. -/
def current_client (serverConnectionHandlerID : UInt64) (other : AnyID) (client : AnyID) :
    PluginM (Int × AnyID) := do
  let r ← getClientID serverConnectionHandlerID
  -- the result variable is the caller's
  let client := r.store client
  if r.code = ERROR_ok then
    return (if other = client then 1 else 0, client)
  else return (-1, client)

/-- Return 1 if the channel is the user's current channel, otherwise 0.
    Will return -1 if an error occured. -/
def current_channel (serverConnectionHandlerID : UInt64) (other : UInt64) (current : UInt64)
    (myID : AnyID) : PluginM (Int × UInt64) := do
  -- the own ID is asked for again, into a local of this function
  let r ← getClientID serverConnectionHandlerID
  let myID := r.store myID
  if r.code ≠ ERROR_ok then
    logMessage "Could not get client ID." .ERROR serverConnectionHandlerID
    return (-1, current)
  else
    let r ← getChannelOfClient serverConnectionHandlerID myID
    let current := r.store current
    if r.code ≠ ERROR_ok then
      logMessage "Could not get client's channel's ID." .DEBUG serverConnectionHandlerID
      return (-1, current)
    else return (if other = current then 1 else 0, current)

/-- Send notification of server message. -/
def send_server_message_notification (u : Locals) (serverConnectionHandlerID : UInt64)
    (fromName message : CString) : PluginM Unit := do
  let r ← getServerVariableAsString serverConnectionHandlerID VIRTUALSERVER_NAME
  let servername := r.store u.servername
  if r.code = ERROR_ok then
    request (.notify_server_message (.lib servername) (.arg fromName) (.arg message))
    freeMemory servername
  -- after a failure there is nothing to release
  else logMessage "Could not get server name." .ERROR serverConnectionHandlerID

/-- Send notification of channel message. -/
def send_channel_message_notification (u : Locals) (serverConnectionHandlerID : UInt64)
    (clientID : AnyID) (fromName message : CString) : PluginM Unit := do
  let r ← getChannelOfClient serverConnectionHandlerID clientID
  let channelID := r.store u.channelID
  if r.code = ERROR_ok then
    let r ← getChannelVariableAsString serverConnectionHandlerID channelID CHANNEL_NAME
    let channelname := r.store u.channelname
    if r.code = ERROR_ok then
      request (.notify_channel_message (.lib channelname) (.arg fromName) (.arg message))
      freeMemory channelname
    else logMessage "Could not get channel name." .ERROR serverConnectionHandlerID
  else logMessage "Could not get current channel's ID." .ERROR serverConnectionHandlerID

/-! ## Section 2: Callbacks -/

def ts3plugin_onUpdateChannelEditedEvent (u : Locals) (serverConnectionHandlerID : UInt64)
    (channelID : UInt64) (invokerID : AnyID) (invokerName : CString) : PluginM Unit := do
  logMessage "onUpdateChannelEditedEvent" .DEBUG serverConnectionHandlerID
  let self ← current_client serverConnectionHandlerID invokerID u.myID
  -- a failed lookup, -1, passes this test as another client does
  Prog.when (self.1 ≠ 1) do
    let here ← current_channel serverConnectionHandlerID channelID u.currentID (u.innerID 0)
    Prog.when (here.1 = 1) (request (.notify_channel_edited (.arg invokerName)))

/-- The two channel tests of the move callbacks, and what they lead to. -/
def report_membership (u : Locals) (serverConnectionHandlerID : UInt64) (clientname : Str)
    (oldChannelID newChannelID : UInt64) (mover : Option Str) : PluginM Unit := do
  let old ← current_channel serverConnectionHandlerID oldChannelID u.currentID (u.innerID 0)
  Prog.when (old.1 = 1) (request (.notify_leave clientname mover))
  -- both tests write the callback's `currentID`; neither outcome skips the other
  let new ← current_channel serverConnectionHandlerID newChannelID old.2 (u.innerID 1)
  Prog.when (new.1 = 1) (request (.notify_join clientname mover))

def ts3plugin_onClientMoveEvent (u : Locals) (serverConnectionHandlerID : UInt64)
    (clientID : AnyID) (oldChannelID newChannelID : UInt64) : PluginM Unit := do
  logMessage "onClientMoveEvent" .DEBUG serverConnectionHandlerID
  let self ← current_client serverConnectionHandlerID clientID u.myID
  -- as above, -1 passes
  Prog.when (self.1 ≠ 1) do
    let r ← getClientVariableAsString serverConnectionHandlerID clientID CLIENT_NICKNAME
    let clientname := r.store u.clientname
    if r.code = ERROR_ok then
      -- `clientname` is not released afterwards
      report_membership u serverConnectionHandlerID (.lib clientname) oldChannelID
        newChannelID none
    else logMessage "Could not get client nickname." .ERROR serverConnectionHandlerID

def ts3plugin_onClientMoveMovedEvent (u : Locals) (serverConnectionHandlerID : UInt64)
    (clientID : AnyID) (oldChannelID newChannelID : UInt64) (moverID : AnyID)
    (moverName : CString) : PluginM Unit := do
  logMessage "onClientMoveMovedEvent" .DEBUG serverConnectionHandlerID
  -- `res` is the first component, `myID` the second; it is the mover, not the
  -- moved client, that is compared with the own client
  let res ← current_client serverConnectionHandlerID moverID u.myID
  if res.1 = 1 ∧ clientID ≠ res.2 then
    let r ← getChannelVariableAsString serverConnectionHandlerID newChannelID CHANNEL_NAME
    let channelname := r.store u.channelname
    if r.code = ERROR_ok then
      request (.notify_move (.lib channelname) (.arg moverName))
    else logMessage "Could not get channel name." .ERROR serverConnectionHandlerID
  else
    -- client is not current client; after a failed lookup nothing is done
    Prog.when (res.1 = 0) do
      let r ← getClientVariableAsString serverConnectionHandlerID clientID CLIENT_NICKNAME
      let clientname := r.store u.clientname
      if r.code = ERROR_ok then
        report_membership u serverConnectionHandlerID (.lib clientname) oldChannelID
          newChannelID (some (.arg moverName))
      else logMessage "Could not get client nickname." .ERROR serverConnectionHandlerID

def ts3plugin_onTextMessageEvent (u : Locals) (serverConnectionHandlerID : UInt64)
    (targetMode fromID : AnyID) (fromName message : CString) (ffIgnored : Int) :
    PluginM Int := do
  logMessage "onTextMessageEvent" .DEBUG serverConnectionHandlerID
  -- Friend/Foe manager has ignored the message, so ignore here as well
  if ffIgnored ≠ 0 then return 0
  else
    let self ← current_client serverConnectionHandlerID fromID u.myID
    -- tested with `!` instead: a failed lookup is not another client
    if self.1 = 0 then
      if targetMode = TextMessageTarget_SERVER then
        send_server_message_notification u serverConnectionHandlerID fromName message
        return 0
      else if targetMode = TextMessageTarget_CHANNEL then
        send_channel_message_notification u serverConnectionHandlerID self.2 fromName message
        return 0
      else if targetMode = TextMessageTarget_CLIENT then
        request (.notify_private_message (.arg fromName) (.arg message))
        return 0
      else
        logMessage "Unexpected TextMessageTarget." .WARNING serverConnectionHandlerID
        return 0
    else return 0

def ts3plugin_onClientPokeEvent (u : Locals) (serverConnectionHandlerID : UInt64)
    (fromClientID : AnyID) (pokerName message : CString) (ffIgnored : Int) :
    PluginM Int := do
  logMessage "onClientPokeEvent" .DEBUG serverConnectionHandlerID
  -- check if the Friend/Foe manager has already blocked this poke
  if ffIgnored ≠ 0 then return 0
  else
    let self ← current_client serverConnectionHandlerID fromClientID u.myID
    -- only poke if the poker is not the client itself; -1 passes again
    Prog.when (self.1 ≠ 1) (request (.notify_poke (.arg pokerName) (.arg message)))
    return 0

/-- The callbacks whose body is empty. -/
inductive Stub where
  | onConnectStatusChangeEvent (newStatus : Int) (errorNumber : UInt32)
  | onUpdateClientEvent
  | onClientMoveTimeoutEvent
  | onClientKickFromChannelEvent
  | onClientKickFromServerEvent
  | onServerStopEvent
  | onTalkStatusChangeEvent
  | onChannelDescriptionUpdateEvent
  | onChannelPasswordChangedEvent
  | onClientBanFromServerEvent
  | onFileListEvent
  | onClientChannelGroupChangedEvent
  | onServerGroupClientAddedEvent
  | onServerGroupClientDeletedEvent
  | onClientChatClosedEvent
  | onClientChatComposingEvent
  deriving DecidableEq

def Stub.body : Stub → PluginM Unit := fun _ => pure ()

/-! ## Section 3: The plugin as a state machine -/

/-- A call of a callback, with the arguments it reads. -/
inductive Callback where
  | onUpdateChannelEditedEvent (serverConnectionHandlerID : UInt64) (channelID : UInt64)
      (invokerID : AnyID) (invokerName : CString)
  | onClientMoveEvent (serverConnectionHandlerID : UInt64) (clientID : AnyID)
      (oldChannelID newChannelID : UInt64)
  | onClientMoveMovedEvent (serverConnectionHandlerID : UInt64) (clientID : AnyID)
      (oldChannelID newChannelID : UInt64) (moverID : AnyID) (moverName : CString)
  | onTextMessageEvent (serverConnectionHandlerID : UInt64) (targetMode fromID : AnyID)
      (fromName message : CString) (ffIgnored : Int)
  | onClientPokeEvent (serverConnectionHandlerID : UInt64) (fromClientID : AnyID)
      (pokerName message : CString) (ffIgnored : Int)
  | stub (serverConnectionHandlerID : UInt64) (which : Stub)
  deriving DecidableEq

/-- The server connection an event belongs to. -/
def Callback.connection : Callback → UInt64
  | .onUpdateChannelEditedEvent schid _ _ _ => schid
  | .onClientMoveEvent schid _ _ _ => schid
  | .onClientMoveMovedEvent schid _ _ _ _ _ => schid
  | .onTextMessageEvent schid _ _ _ _ _ => schid
  | .onClientPokeEvent schid _ _ _ _ => schid
  | .stub schid _ => schid

/-- The body of a callback. The result is `none` for a `void` function. -/
def Callback.body (u : Locals) : Callback → PluginM (Option Int)
  | .onUpdateChannelEditedEvent schid channelID invokerID invokerName => do
    ts3plugin_onUpdateChannelEditedEvent u schid channelID invokerID invokerName
    return none
  | .onClientMoveEvent schid clientID oldChannelID newChannelID => do
    ts3plugin_onClientMoveEvent u schid clientID oldChannelID newChannelID
    return none
  | .onClientMoveMovedEvent schid clientID oldChannelID newChannelID moverID moverName => do
    ts3plugin_onClientMoveMovedEvent u schid clientID oldChannelID newChannelID moverID
      moverName
    return none
  | .onTextMessageEvent schid targetMode fromID fromName message ffIgnored => do
    let res ← ts3plugin_onTextMessageEvent u schid targetMode fromID fromName message
      ffIgnored
    return some res
  | .onClientPokeEvent schid fromClientID pokerName message ffIgnored => do
    let res ← ts3plugin_onClientPokeEvent u schid fromClientID pokerName message ffIgnored
    return some res
  | .stub _ which => do
    which.body
    return none

/-- A callback together with what its uninitialised locals happen to hold. -/
structure Activation where
  callback : Callback
  locals : Locals

/-- One served callback: the library's state before and after, the calls and
    their answers, the value returned. -/
structure Step (σ : Type) where
  activation : Activation
  before : σ
  trace : Trace
  value : Option Int
  after : σ

/-- Serve one callback. -/
def Activation.serve {σ : Type} (h : Library σ) (a : Activation) (s : σ) : Step σ :=
  let o := (a.callback.body a.locals).run h s
  ⟨a, s, o.trace, o.value, o.state⟩

/-- Serve callbacks one after the other, from the library state `s`. -/
def runCallbacks {σ : Type} (h : Library σ) : List Activation → σ → List (Step σ)
  | [], _ => []
  | a :: as, s => a.serve h s :: runCallbacks h as (a.serve h s).after

/-! ## Section 4: Start -/

/-- Show a welcome message to the user. Will not show any message if
    `conf.show_welcome` is set to 0. -/
def show_welcome_message (conf : Conf) : PluginM Unit :=
  Prog.when (conf.show_welcome = 1)
    (request (.notify (.arg ts3plugin_name) (.arg (CString.ofString "Hello, World!")) .LOW))

/-- Custom code called right after loading the plugin. Returns 0 on success, 1 on
    failure. -/
def ts3plugin_init (files : CString → IniFile) (home : CString) (conf : Conf) :
    PluginM (Int × Conf) := do
  -- try to load the configuration
  let (res, conf) := init_config files home conf
  if res = -1 then return (1, conf)
  else
    show_welcome_message conf
    return (0, conf)

/-- The arguments of `ts3plugin_init`, as the system has them. -/
structure Start where
  files : CString → IniFile
  home : CString
  conf : Conf

/-- The start of the plugin against a library in the state `s`. -/
def Start.run {σ : Type} (i : Start) (h : Library σ) (s : σ) :
    Outcome PluginSig σ (Int × Conf) :=
  (ts3plugin_init i.files i.home i.conf).run h s

/-- The callbacks served after the start of the plugin; none if it fails. -/
def session {σ : Type} (i : Start) (h : Library σ) (acts : List Activation) (s : σ) :
    List (Step σ) :=
  if (i.run h s).value.1 = 0 then runCallbacks h acts (i.run h s).state else []

end TeamspeakNotifications
