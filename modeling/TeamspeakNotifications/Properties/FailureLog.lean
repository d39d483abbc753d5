import TeamspeakNotifications.Model.System

/-! # What the plugin tells the client's log

    A callback logs the name of its event first. The queries it makes may fail,
    and the failures are logged, each with a message of its own; only whether the
    own client took the action is asked without a word about a failure.

    * `complaint`: the message that belongs to a failed query.
    * `Reported`: every failed query is followed by its message, and there are no
      other messages.
    * `Logged`: the trace of a callback, in these terms.
    * `logged_decide`, `failures_logged`: for one callback, and for overlapping
      ones.
-/

namespace TeamspeakNotifications

open Interaction CLib

/-! ## Section 1: Messages -/

/-- A message with its severity. -/
abbrev Message := String × LogLevel

/-- The plugin logs the message for the connection `S`. -/
def logEvent (S : UInt64) (m : Message) : Event PluginSig :=
  ⟨.logMessage (CString.ofString m.1) m.2 ts3plugin_name S, ()⟩

def IsLog : Call → Prop
  | .logMessage _ _ _ _ => True
  | _ => False

/-- The message, if the query failed. -/
def Reply.complaint {α : Type} (m : Message) : Reply α → Option Message
  | .ok _ => none
  | .error _ _ => some m

/-- The message that belongs to an event, if it is a failed query. `lost` is the
    one for the own channel, which is not the same everywhere. -/
def complaint (lost : Message) : Event PluginSig → Option Message
  | ⟨.getClientID _, (r : Reply AnyID)⟩ => r.complaint ("Could not get client ID.", .ERROR)
  | ⟨.getChannelOfClient _ _, (r : Reply UInt64)⟩ => r.complaint lost
  | ⟨.getClientVariableAsString _ _ _, (r : Reply LibString)⟩ =>
    r.complaint ("Could not get client nickname.", .ERROR)
  | ⟨.getChannelVariableAsString _ _ _, (r : Reply LibString)⟩ =>
    r.complaint ("Could not get channel name.", .ERROR)
  | ⟨.getServerVariableAsString _ _, (r : Reply LibString)⟩ =>
    r.complaint ("Could not get server name.", .ERROR)
  | _ => none

/-- Every failed query is followed by its message, and no message by itself. -/
inductive Reported (S : UInt64) (lost : Message) : Trace → Prop where
  | nil : Reported S lost []
  | quiet {e : Event PluginSig} {t : Trace} (hquery : complaint lost e = none)
      (hlog : ¬ IsLog e.call) (rest : Reported S lost t) : Reported S lost (e :: t)
  | failed {e : Event PluginSig} {m : Message} {t : Trace} (hquery : complaint lost e = some m)
      (rest : Reported S lost t) : Reported S lost (e :: logEvent S m :: t)

theorem Reported.append {S : UInt64} {lost : Message} {t u : Trace} (ht : Reported S lost t)
    (hu : Reported S lost u) : Reported S lost (t ++ u) := by
  induction ht with
  | nil => exact hu
  | quiet hquery hlog _ ih => exact .quiet hquery hlog ih
  | failed hquery _ ih => exact .failed hquery ih

/-! ## Section 2: Programs that report -/

/-- The program reports the failures of its queries, whatever the library is. -/
def Reports (S : UInt64) (lost : Message) {α : Type} (p : PluginM α) : Prop :=
  ∀ (σ : Type) (h : Library σ) (s : σ), Reported S lost (p.run h s).trace

section programs

variable {S : UInt64} {lost : Message} {α β : Type}

theorem reports_pure (a : α) : Reports S lost (pure a) := fun _ _ _ => .nil

theorem Reports.bind {p : PluginM α} {f : α → PluginM β} (hp : Reports S lost p)
    (hf : ∀ a, Reports S lost (f a)) : Reports S lost (p >>= f) := by
  intro σ h s
  rw [Prog.run_bind]
  exact (hp σ h s).append (hf _ σ h _)

theorem Reports.when {b : Prop} [Decidable b] {p : PluginM Unit} (hp : Reports S lost p) :
    Reports S lost (Prog.when b p) := by
  by_cases hb : b
  · rw [Prog.when_pos hb]
    exact hp
  · rw [Prog.when_neg hb]
    exact reports_pure ()

theorem reports_request (n : Notification Str) : Reports S lost (request n) :=
  fun _ _ _ => .quiet rfl id .nil

theorem reports_freeMemory (p : LibString) : Reports S lost (freeMemory p) :=
  fun _ _ _ => .quiet rfl id .nil

/-- The program is one query, and `message` is the one for its failure. -/
def Watched (lost : Message) (query : PluginM (Reply LibString)) (message : String) : Prop :=
  ∀ (σ : Type) (h : Library σ) (s : σ), ∃ e, (query.run h s).trace = [e] ∧ ¬ IsLog e.call ∧
    complaint lost e = (query.run h s).value.complaint (message, .ERROR)

theorem reports_withName {query : PluginM (Reply LibString)} {message : String}
    (hquery : Watched lost query message) {act : LibString → PluginM Unit}
    (hact : ∀ name, Reports S lost (act name)) :
    Reports S lost (withName query message S act) := by
  intro σ h s
  obtain ⟨e, htrace, hlog, hcomplaint⟩ := hquery σ h s
  unfold withName
  rw [Prog.run_bind, htrace]
  cases hvalue : (query.run h s).value with
  | ok name =>
    rw [hvalue] at hcomplaint
    exact .quiet hcomplaint hlog (hact name σ h _)
  | error c left =>
    rw [hvalue] at hcomplaint
    exact .failed hcomplaint .nil

theorem watched_nickname (clientID : AnyID) :
    Watched lost (getClientVariableAsString S clientID CLIENT_NICKNAME)
      "Could not get client nickname." :=
  fun _ _ _ => ⟨_, rfl, id, rfl⟩

theorem watched_channelName (channelID : UInt64) :
    Watched lost (getChannelVariableAsString S channelID CHANNEL_NAME)
      "Could not get channel name." :=
  fun _ _ _ => ⟨_, rfl, id, rfl⟩

theorem watched_serverName :
    Watched lost (getServerVariableAsString S VIRTUALSERVER_NAME) "Could not get server name." :=
  fun _ _ _ => ⟨_, rfl, id, rfl⟩

theorem reports_borrowed {query : PluginM (Reply LibString)} {message : String}
    (hquery : Watched lost query message) (shown : LibString → Notification Str) :
    Reports S lost (withName query message S (fun name => do
      request (shown name)
      freeMemory name)) := by
  apply reports_withName hquery
  intro name
  exact (reports_request (shown name)).bind fun _ => reports_freeMemory name

end programs

section callbacks

variable (S : UInt64)

/-- The message for the own channel, where a channel is compared with it. -/
def channelLost : Message := ("Could not get client's channel's ID.", .DEBUG)

/-- The message for the own channel, where its name is asked for. -/
def messageChannelLost : Message := ("Could not get current channel's ID.", .ERROR)

theorem reports_askOwnChannel : Reports S channelLost (askOwnChannel S) := by
  intro σ h s
  unfold askOwnChannel
  rw [Prog.run_bind, run_getClientID]
  generalize clientIDAnswer h S s = answer
  obtain ⟨id, s₁⟩ := answer
  cases id with
  -- a failure ends the search, and there is nothing after its message
  | error c left => exact .failed (m := ("Could not get client ID.", .ERROR)) rfl .nil
  | ok myID =>
    apply Reported.quiet rfl id
    dsimp only
    rw [Prog.run_bind, run_getChannelOfClient]
    generalize channelAnswer h S s₁ myID = answer
    obtain ⟨channel, s₂⟩ := answer
    cases channel with
    | error c left => exact .failed (m := channelLost) rfl .nil
    | ok channelID => exact .quiet rfl id .nil

theorem reports_decideNamed (clientID : AnyID) (oldChannelID newChannelID : UInt64)
    (mover : Option Str) :
    Reports S channelLost (decideNamed S clientID oldChannelID newChannelID mover) := by
  apply reports_withName (watched_nickname clientID)
  intro name
  apply (reports_askOwnChannel S).bind
  intro here
  apply (reports_request _).when.bind
  intro _
  apply (reports_askOwnChannel S).bind
  intro here
  exact (reports_request _).when

theorem reports_decideChannelMessage (myID : AnyID) (fromName message : CString) :
    Reports S messageChannelLost (decideChannelMessage S myID fromName message) := by
  intro σ h s
  unfold decideChannelMessage
  rw [Prog.run_bind, run_getChannelOfClient]
  generalize channelAnswer h S s myID = answer
  obtain ⟨channel, s₁⟩ := answer
  cases channel with
  | error c left => exact .failed (m := messageChannelLost) rfl .nil
  | ok channelID =>
    exact .quiet rfl id (reports_borrowed (watched_channelName channelID) _ σ h s₁)

end callbacks

/-! ## Section 3: Callbacks -/

/-- The name of the event, as it is logged. -/
def Callback.event : Callback → Option String
  | .onUpdateChannelEditedEvent _ _ _ _ => some "onUpdateChannelEditedEvent"
  | .onClientMoveEvent _ _ _ _ => some "onClientMoveEvent"
  | .onClientMoveMovedEvent _ _ _ _ _ _ => some "onClientMoveMovedEvent"
  | .onTextMessageEvent _ _ _ _ _ _ => some "onTextMessageEvent"
  | .onClientPokeEvent _ _ _ _ _ => some "onClientPokeEvent"
  | .stub _ _ => none

/-- The message of the callback for the own channel. -/
def Callback.lost : Callback → Message
  | .onTextMessageEvent _ _ _ _ _ _ => messageChannelLost
  | _ => channelLost

/-- What a callback does, as far as messages go. `checked` is the only case with
    a query, the first one, whose failure is not reported. -/
inductive Logged (c : Callback) : Trace → Prop where
  | stub (hevent : c.event = none) : Logged c []
  | ignored {event : String} (hevent : c.event = some event) :
    Logged c [logEvent c.connection (event, .DEBUG)]
  | checked {event : String} (hevent : c.event = some event) (r : Reply AnyID) {t : Trace}
      (rest : Reported c.connection c.lost t) :
    Logged c (logEvent c.connection (event, .DEBUG) ::
      ⟨.getClientID c.connection, r⟩ :: t)
  | misdirected {S : UInt64} {targetMode fromID : AnyID} {fromName message : CString}
      (hcallback : c = .onTextMessageEvent S targetMode fromID fromName message 0)
      (hserver : targetMode ≠ TextMessageTarget_SERVER)
      (hchannel : targetMode ≠ TextMessageTarget_CHANNEL)
      (hclient : targetMode ≠ TextMessageTarget_CLIENT) {myID : AnyID} (hother : fromID ≠ myID) :
    Logged c [logEvent S ("onTextMessageEvent", .DEBUG), ⟨.getClientID S, .ok myID⟩,
      logEvent S ("Unexpected TextMessageTarget.", .WARNING)]

section decide

variable {σ : Type} (h : Library σ) (s : σ)

theorem logged_entry {c : Callback} {event : String} (hevent : c.event = some event)
    {f : Option AnyID → PluginM Unit} (hf : ∀ self, Reports c.connection c.lost (f self)) :
    Logged c ((do
      logMessage event .DEBUG c.connection
      let self ← askSelf c.connection
      f self).run h s).trace :=
  .checked hevent _ (hf _ σ h _)

/-- The switch over the target is the only place where a message stands for
    something else than a failed query. -/
theorem logged_textMessage (S : UInt64) (targetMode fromID : AnyID)
    (fromName message : CString) (ffIgnored : Int) :
    Logged (.onTextMessageEvent S targetMode fromID fromName message ffIgnored)
      ((decideTextMessage S targetMode fromID fromName message ffIgnored).run h s).trace := by
  unfold decideTextMessage
  by_cases hff : ffIgnored = 0
  · simp only [Prog.when_pos hff]
    rw [run_entry]
    show Logged _ (logEvent S ("onTextMessageEvent", .DEBUG) :: ⟨.getClientID S,
      (clientIDAnswer h S ((logMessage "onTextMessageEvent" .DEBUG S).run h s).state).1⟩ :: _)
    unfold ownIDAnswer
    generalize clientIDAnswer h S _ = answer
    obtain ⟨r, s₁⟩ := answer
    cases r with
    -- the own ID is not known: nothing else is done, and nothing is said
    | error c left => exact .checked rfl _ .nil
    | ok myID =>
      dsimp only [Reply.result?_ok]
      by_cases hother : fromID ≠ myID
      · simp only [Prog.when_pos hother]
        split_ifs with hserver hchannel hclient
        · exact .checked rfl _ (reports_borrowed watched_serverName _ σ h s₁)
        · exact .checked rfl _ (reports_decideChannelMessage S myID fromName message σ h s₁)
        · exact .checked rfl _ (reports_request _ σ h s₁)
        · subst hff
          exact .misdirected rfl hserver hchannel hclient hother
      · simp only [Prog.when_neg hother]
        exact .checked rfl _ .nil
  · simp only [Prog.when_neg hff]
    exact .ignored rfl

/-- **One callback.** -/
theorem logged_decide (c : Callback) : Logged c (c.decide.run h s).trace := by
  cases c with
  | onUpdateChannelEditedEvent S channelID invokerID invokerName =>
    apply logged_entry h s rfl
    intro self
    apply Reports.when
    apply (reports_askOwnChannel S).bind
    intro here
    exact (reports_request _).when
  | onClientMoveEvent S clientID oldChannelID newChannelID =>
    apply logged_entry h s rfl
    intro self
    exact (reports_decideNamed S clientID oldChannelID newChannelID none).when
  | onClientMoveMovedEvent S clientID oldChannelID newChannelID moverID moverName =>
    apply logged_entry h s rfl
    intro self
    cases self with
    | none => exact reports_pure ()
    | some myID =>
      dsimp only
      by_cases hmover : moverID = myID
      · rw [if_pos hmover]
        apply Reports.when
        apply reports_withName (watched_channelName newChannelID)
        intro name
        exact reports_request _
      · rw [if_neg hmover]
        exact reports_decideNamed S clientID oldChannelID newChannelID _
  | onTextMessageEvent S targetMode fromID fromName message ffIgnored =>
    exact logged_textMessage h s S targetMode fromID fromName message ffIgnored
  | onClientPokeEvent S fromClientID pokerName message ffIgnored =>
    show Logged _ ((decidePoke S fromClientID pokerName message ffIgnored).run h s).trace
    unfold decidePoke
    by_cases hff : ffIgnored = 0
    · simp only [Prog.when_pos hff]
      apply logged_entry h s rfl
      intro self
      exact (reports_request _).when
    · simp only [Prog.when_neg hff]
      exact .ignored rfl
  | stub S which => exact .stub rfl

end decide

/-! ## Section 4: Overlapping callbacks -/

section overlapping

variable {σ κ : Type} {n : Nat} (H : Handler SystemSig σ) (e : κ → σ → σ)
  (threads : Fin n → Thread) (ms : List (Moment (Fin n) κ)) (s : σ)

/-- **No failure is hushed up.** But for the first query of a callback, and there
    are no false alarms. -/
theorem failures_logged (i : Fin n) (hreturned : Returned H e threads ms s i) :
    Logged (threads i).activation.callback (libraryTrace H e threads ms s i) := by
  obtain ⟨h, s', -, hwhole⟩ := thread_alone H e threads ms s i
  rw [← hwhole hreturned, serve_trace]
  exact logged_decide h s' _

end overlapping

/-- The library fails every query. -/
def brokenLibrary : Handler SystemSig Unit := fun c s =>
  match c with
  | .inl c => ((ClientLib.failing none none none).answer c, s)
  | .inr c => ((otherFocused c ()).1, s)

/-- The nickname of client 2 is not found, while a message arrives. -/
theorem failures_logged_moveAndMessage :
    Logged (.onClientMoveEvent 0 2 20 10)
      (libraryTrace brokenLibrary (fun _ s => s) moveAndMessage inTurns () 0) :=
  failures_logged brokenLibrary (fun _ s => s) moveAndMessage inTurns () 0 ⟨none, rfl⟩

end TeamspeakNotifications
