import TeamspeakNotifications.Framework.Interaction
import TeamspeakNotifications.Model.Notify

/-! # Model of the TeamSpeak client library

    What the plugin sees of the library through `struct TS3Functions`: the
    functions it calls, the types of their results and the constants it passes.

    A query returns an error code and has a result variable. By the library's
    documentation the variable may only be read if the code is `ERROR_ok`;
    otherwise its contents are undefined. A failed `Reply` therefore says what
    the call left behind: nothing, or any value at all.

    The plugin's calls of `notify.c` are recorded in the same trace, as
    `request`.
-/

namespace TeamspeakNotifications

open Interaction CLib

/-! ## Section 1: Types and constants -/

/-- `anyID`: client IDs, and the mode of a text message. -/
abbrev AnyID := UInt16

/-- `enum LogLevel`. -/
inductive LogLevel where
  | CRITICAL | ERROR | WARNING | DEBUG | INFO | DEVEL
  deriving DecidableEq

def ERROR_ok : UInt32 := 0

/-- An error code other than `ERROR_ok`. -/
abbrev Failure := { code : UInt32 // code ≠ ERROR_ok }

def ERROR_undefined : Failure := ⟨1, by decide⟩

def CLIENT_NICKNAME : Nat := 1
def CHANNEL_NAME : Nat := 0
def VIRTUALSERVER_NAME : Nat := 1

def TextMessageTarget_CLIENT : AnyID := 1
def TextMessageTarget_CHANNEL : AnyID := 2
def TextMessageTarget_SERVER : AnyID := 3

def STATUS_CONNECTING : Int := 1
def STATUS_CONNECTED : Int := 2
def STATUS_CONNECTION_ESTABLISHING : Int := 3
def STATUS_CONNECTION_ESTABLISHED : Int := 4

/-- A string allocated by the library: where it lies and what it says. -/
structure LibString where
  addr : Nat
  text : CString
  deriving DecidableEq, Inhabited

/-- A `const char *` the plugin passes on: an argument of the callback, owned
    by the caller, or a string of the library. -/
inductive Str where
  | arg (s : CString)
  | lib (p : LibString)
  deriving DecidableEq

/-- The string pointed at. -/
def Str.text : Str → CString
  | .arg s => s
  | .lib p => p.text

@[simp] theorem Str.text_lib (p : LibString) : (Str.lib p).text = p.text := rfl

/-! ## Section 2: Replies -/

/-- How a query returns. `left` is what a failed query left in the result
    variable, `none` if it did not touch it. -/
inductive Reply (α : Type) where
  | ok (value : α)
  | error (code : Failure) (left : Option α)

namespace Reply

variable {α : Type}

/-- The returned error code. -/
def code : Reply α → UInt32
  | .ok _ => ERROR_ok
  | .error c _ => c.val

/-- The result variable after the call, if it held `old` before. -/
def store (r : Reply α) (old : α) : α :=
  match r with
  | .ok value => value
  | .error _ left => left.getD old

/-- The result, if there is one. -/
def result? : Reply α → Option α
  | .ok value => some value
  | .error _ _ => none

@[simp] theorem code_ok (v : α) : (Reply.ok v).code = ERROR_ok := rfl

@[simp] theorem code_error (c : Failure) (left : Option α) :
    ((Reply.error c left).code = ERROR_ok) = False := by
  simp [code, c.property]

@[simp] theorem store_ok (v old : α) : (Reply.ok v).store old = v := rfl

@[simp] theorem result?_ok (v : α) : (Reply.ok v).result? = some v := rfl

@[simp] theorem result?_error (c : Failure) (left : Option α) :
    (Reply.error c left : Reply α).result? = none := rfl

/-- Equal except for what a failed query left behind. -/
def Agree : Reply α → Reply α → Prop
  | .ok v, .ok w => v = w
  | .error c _, .error d _ => c = d
  | _, _ => False

end Reply

/-! ## Section 3: Calls -/

/-- The library functions the plugin calls, and its requests to `notify.c`. -/
inductive Call where
  | logMessage (message : CString) (severity : LogLevel) (channel : CString) (logID : UInt64)
  | getClientID (serverConnectionHandlerID : UInt64)
  | getChannelOfClient (serverConnectionHandlerID : UInt64) (clientID : AnyID)
  | getClientVariableAsString (serverConnectionHandlerID : UInt64) (clientID : AnyID)
      (flag : Nat)
  | getChannelVariableAsString (serverConnectionHandlerID : UInt64) (channelID : UInt64)
      (flag : Nat)
  | getServerVariableAsString (serverConnectionHandlerID : UInt64) (flag : Nat)
  | freeMemory (pointer : LibString)
  | request (n : Notification Str)
  deriving DecidableEq

/-- The plugin ignores what `logMessage` and `freeMemory` return. -/
def Call.Answer : Call → Type
  | .logMessage _ _ _ _ => Unit
  | .getClientID _ => Reply AnyID
  | .getChannelOfClient _ _ => Reply UInt64
  | .getClientVariableAsString _ _ _ => Reply LibString
  | .getChannelVariableAsString _ _ _ => Reply LibString
  | .getServerVariableAsString _ _ => Reply LibString
  | .freeMemory _ => Unit
  | .request _ => Unit

def PluginSig : Sig := ⟨Call, Call.Answer⟩

abbrev PluginM := Prog PluginSig

/-- A library with states `σ`. -/
abbrev Library (σ : Type) := Handler PluginSig σ

/-- The calls of a run with their answers. -/
abbrev Trace := List (Event PluginSig)

def getClientID (serverConnectionHandlerID : UInt64) : PluginM (Reply AnyID) :=
  @Prog.perform PluginSig (.getClientID serverConnectionHandlerID)

def getChannelOfClient (serverConnectionHandlerID : UInt64) (clientID : AnyID) :
    PluginM (Reply UInt64) :=
  @Prog.perform PluginSig (.getChannelOfClient serverConnectionHandlerID clientID)

def getClientVariableAsString (serverConnectionHandlerID : UInt64) (clientID : AnyID)
    (flag : Nat) : PluginM (Reply LibString) :=
  @Prog.perform PluginSig
    (.getClientVariableAsString serverConnectionHandlerID clientID flag)

def getChannelVariableAsString (serverConnectionHandlerID : UInt64) (channelID : UInt64)
    (flag : Nat) : PluginM (Reply LibString) :=
  @Prog.perform PluginSig
    (.getChannelVariableAsString serverConnectionHandlerID channelID flag)

def getServerVariableAsString (serverConnectionHandlerID : UInt64) (flag : Nat) :
    PluginM (Reply LibString) :=
  @Prog.perform PluginSig (.getServerVariableAsString serverConnectionHandlerID flag)

def freeMemory (pointer : LibString) : PluginM Unit :=
  @Prog.perform PluginSig (.freeMemory pointer)

/-- Call the function of `notify.c` that `n` names. -/
def request (n : Notification Str) : PluginM Unit :=
  @Prog.perform PluginSig (.request n)

/-- The notification an event requests, if it is one. -/
def requestOf (e : Event PluginSig) : Option (Notification Str) :=
  match e.call with
  | .request n => some n
  | _ => none

/-- The notifications requested in a trace, in order. -/
def requests (t : Trace) : List (Notification Str) := t.filterMap requestOf

@[simp] theorem requests_append (t u : Trace) :
    requests (t ++ u) = requests t ++ requests u := List.filterMap_append

end TeamspeakNotifications
