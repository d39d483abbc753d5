import TeamspeakNotifications.Properties.StringLedger

/-! # Text messages

    A text message is shown under a heading: a private one under "PM:", one to
    the server under the server's name, one to the channel under the name of the
    own client's channel. Each name has to be asked for, and each query may
    fail.

    * `TextMessage`: a call of the callback, with its arguments.
    * `TextMessage.heading`: what the message is shown under, if it is known.
    * `EndToEnd`: what the callback returns, requests, logs and releases.
    * `textMessages`: this is what it does, whatever the library answers.
-/

namespace TeamspeakNotifications

open Interaction CLib Ledger

/-! ## Section 1: What a trace shows -/

def logOf (e : Event PluginSig) : Option CString :=
  match e.call with
  | .logMessage message _ _ _ => some message
  | _ => none

def freedBy (e : Event PluginSig) : Option LibString :=
  match e.call with
  | .freeMemory p => some p
  | _ => none

/-- The messages logged in a trace, in order. -/
def logs (t : Trace) : List CString := t.filterMap logOf

/-- The strings released in a trace, in order. -/
def freed (t : Trace) : List LibString := t.filterMap freedBy

@[simp] theorem logs_append (t u : Trace) : logs (t ++ u) = logs t ++ logs u :=
  List.filterMap_append

@[simp] theorem freed_append (t u : Trace) : freed (t ++ u) = freed t ++ freed u :=
  List.filterMap_append

/-- The call asks the library for something. -/
def IsQuery : Call → Prop
  | .getClientID _ => True
  | .getChannelOfClient _ _ => True
  | .getClientVariableAsString _ _ _ => True
  | .getChannelVariableAsString _ _ _ => True
  | .getServerVariableAsString _ _ => True
  | _ => False

/-! ## Section 2: Headings -/

/-- A call of `ts3plugin_onTextMessageEvent`. -/
structure TextMessage where
  S : UInt64
  targetMode : AnyID
  fromID : AnyID
  fromName : CString
  message : CString
  ffIgnored : Int

namespace TextMessage

variable {σ : Type} (m : TextMessage) (h : Library σ) (s : σ)

def callback : Callback :=
  .onTextMessageEvent m.S m.targetMode m.fromID m.fromName m.message m.ffIgnored

theorem decide_callback : m.callback.decide =
    decideTextMessage m.S m.targetMode m.fromID m.fromName m.message m.ffIgnored := rfl

/-- The body the message is shown with. -/
def body : CString := m.fromName ++ CString.ofString ": " ++ m.message

/-- The own ID is known to be `myID`, and the sender has another one. The
    library is left in the state `s₁`. -/
def FromOther (myID : AnyID) (s₁ : σ) : Prop :=
  ownIDAnswer h "onTextMessageEvent" m.S s = (some myID, s₁) ∧ m.fromID ≠ myID

/-- What a message to the own client `myID` is shown under, if the library in
    the state `s` has it. -/
def heading (myID : AnyID) : Option CString :=
  if m.targetMode = TextMessageTarget_CLIENT then some (CString.ofString "PM:")
  else if m.targetMode = TextMessageTarget_SERVER then
    (serverNameAnswer h m.S s).1.result?.map LibString.text
  else if m.targetMode = TextMessageTarget_CHANNEL then
    match channelAnswer h m.S s myID with
    | (.ok channel, s₁) => (channelNameAnswer h m.S s₁ channel).1.result?.map LibString.text
    | (.error _ _, _) => none
  else none

end TextMessage

/-- What is to be said of a text message from the state `s` on. -/
structure EndToEnd {σ : Type} (m : TextMessage) (h : Library σ) (s : σ) (st : Step σ) :
    Prop where
  returns : st.value = some 0
  atMostOne : (requests st.trace).length ≤ 1
  /-- An ignored message is not even looked into. -/
  ignored : m.ffIgnored ≠ 0 →
    (∀ e ∈ st.trace, ¬ IsQuery e.call) ∧ requests st.trace = []
  /-- Any other is shown if it is somebody else's and has a heading. -/
  shown : m.ffIgnored = 0 →
    (requests st.trace ≠ [] ↔
      ∃ myID s₁ title, m.FromOther h s myID s₁ ∧ m.heading h s₁ myID = some title)
  texts : ∀ n ∈ requests st.trace, ∃ myID s₁ title,
    m.FromOther h s myID s₁ ∧ m.heading h s₁ myID = some title ∧
      (n.map Str.text).toCall = .ok ⟨title, m.body, n.urgency⟩
  /-- Names are used while they are held, and each is released once. -/
  released : Clean (actions st.trace)
  /-- Without a heading one line says why, and there is nothing to release. -/
  complains : m.ffIgnored = 0 → ∀ myID s₁, m.FromOther h s myID s₁ →
    m.heading h s₁ myID = none →
      (∃ line, logs st.trace = [CString.ofString "onTextMessageEvent", line]) ∧
        freed st.trace = []

/-! ## Section 3: How a message ends -/

/-- A message with a heading is shown under it; one without leaves one line in
    the log. -/
def Concluded (title : Option CString) (body : CString) (t : Trace) : Prop :=
  match title with
  | some title =>
    ∃ n, requests t = [n] ∧ (n.map Str.text).toCall = .ok ⟨title, body, n.urgency⟩
  | none => requests t = [] ∧ (∃ line, logs t = [line]) ∧ freed t = []

/-- Nothing is requested, logged or released. -/
structure Quiet (t : Trace) : Prop where
  requests : requests t = []
  logs : logs t = []
  freed : freed t = []

theorem Concluded.after_quiet {title : Option CString} {body : CString} {t u : Trace}
    (ht : Quiet t) (hu : Concluded title body u) : Concluded title body (t ++ u) := by
  unfold Concluded at hu ⊢
  rw [requests_append, logs_append, freed_append, ht.requests, ht.logs, ht.freed]
  exact hu

section conclusion

variable {σ : Type} (h : Library σ) (s : σ) (S : UInt64)

/-- A message under a name that is asked for, shown and released. -/
theorem concluded_borrowed {query : PluginM (Reply LibString)}
    (hquery : Quiet (query.run h s).trace) (message : String)
    {shown : LibString → Notification Str} {body : CString}
    (hshown : ∀ name, ((shown name).map Str.text).toCall =
      .ok ⟨name.text, body, (shown name).urgency⟩) :
    Concluded ((query.run h s).value.result?.map LibString.text) body
      ((withName query message S (fun name => do
        request (shown name)
        freeMemory name)).run h s).trace := by
  unfold withName
  rw [Prog.run_bind]
  apply Concluded.after_quiet hquery
  cases (query.run h s).value with
  | ok name => exact ⟨shown name, rfl, hshown name⟩
  | error c left => exact ⟨rfl, ⟨CString.ofString message, rfl⟩, rfl⟩

theorem concluded_serverMessage (fromName message : CString) :
    Concluded ((serverNameAnswer h S s).1.result?.map LibString.text)
      (fromName ++ CString.ofString ": " ++ message)
      ((decideServerMessage S fromName message).run h s).trace := by
  have hquiet : Quiet ((getServerVariableAsString S VIRTUALSERVER_NAME).run h s).trace :=
    ⟨rfl, rfl, rfl⟩
  apply concluded_borrowed h s S hquiet "Could not get server name."
  intro name
  exact Notification.toCall_eq _

theorem concluded_channelMessage (myID : AnyID) (fromName message : CString) :
    Concluded
      (match channelAnswer h S s myID with
      | (.ok channel, s₁) => (channelNameAnswer h S s₁ channel).1.result?.map LibString.text
      | (.error _ _, _) => none)
      (fromName ++ CString.ofString ": " ++ message)
      ((decideChannelMessage S myID fromName message).run h s).trace := by
  unfold decideChannelMessage
  rw [Prog.run_bind, run_getChannelOfClient]
  apply Concluded.after_quiet ⟨rfl, rfl, rfl⟩
  generalize channelAnswer h S s myID = answer
  rcases answer with ⟨channel, s₁⟩
  cases channel with
  | error c left => exact ⟨rfl, ⟨_, rfl⟩, rfl⟩
  | ok channel =>
    have hquiet : Quiet ((getChannelVariableAsString S channel CHANNEL_NAME).run h s₁).trace :=
      ⟨rfl, rfl, rfl⟩
    apply concluded_borrowed h s₁ S hquiet "Could not get channel name."
    intro name
    exact Notification.toCall_eq _

end conclusion

section callback

variable {σ : Type} (m : TextMessage) (h : Library σ) (s : σ)

/-- Where the message of somebody else ends: the entry is logged, the own ID
    asked for, and the rest is one of the conclusions. -/
theorem concluded_fromOther (hff : m.ffIgnored = 0) {myID : AnyID} {s₁ : σ}
    (hother : m.FromOther h s myID s₁) :
    ∃ t, (m.callback.decide.run h s).trace =
        ((do logMessage "onTextMessageEvent" .DEBUG m.S; askSelf m.S).run h s).trace ++ t ∧
      Concluded (m.heading h s₁ myID) m.body t := by
  rcases hother with ⟨hself, hne⟩
  rw [TextMessage.decide_callback]
  unfold decideTextMessage
  rw [Prog.when_pos hff, run_entry, hself]
  refine ⟨_, rfl, ?_⟩
  dsimp only
  rw [Prog.when_pos hne]
  unfold TextMessage.heading
  by_cases hclient : m.targetMode = TextMessageTarget_CLIENT
  · -- the code tests for the other two modes first
    have hserver : m.targetMode ≠ TextMessageTarget_SERVER := by
      rw [hclient]; decide
    have hchannel : m.targetMode ≠ TextMessageTarget_CHANNEL := by
      rw [hclient]; decide
    rw [if_pos hclient, if_neg hserver, if_neg hchannel, if_pos hclient]
    exact ⟨_, rfl, Notification.toCall_eq _⟩
  · rw [if_neg hclient, if_neg hclient]
    by_cases hserver : m.targetMode = TextMessageTarget_SERVER
    · rw [if_pos hserver, if_pos hserver]
      exact concluded_serverMessage h s₁ m.S m.fromName m.message
    · rw [if_neg hserver, if_neg hserver]
      by_cases hchannel : m.targetMode = TextMessageTarget_CHANNEL
      · rw [if_pos hchannel, if_pos hchannel]
        exact concluded_channelMessage h s₁ m.S myID m.fromName m.message
      · rw [if_neg hchannel, if_neg hchannel]
        exact ⟨rfl, ⟨_, rfl⟩, rfl⟩

/-- What is requested of somebody else's message: one notification under its
    heading, or none. -/
theorem requests_fromOther (hff : m.ffIgnored = 0) {myID : AnyID} {s₁ : σ}
    (hother : m.FromOther h s myID s₁) :
    match m.heading h s₁ myID with
    | some title => ∃ n, requests (m.callback.decide.run h s).trace = [n] ∧
      (n.map Str.text).toCall = .ok ⟨title, m.body, n.urgency⟩
    | none => requests (m.callback.decide.run h s).trace = [] := by
  obtain ⟨t, htrace, hend⟩ := concluded_fromOther m h s hff hother
  rw [htrace, requests_append]
  show match m.heading h s₁ myID with
    | some title => ∃ n, requests t = [n] ∧ _
    | none => requests t = []
  unfold Concluded at hend
  cases hhead : m.heading h s₁ myID with
  | some title => rw [hhead] at hend; exact hend
  | none => rw [hhead] at hend; exact hend.1

/-- The logged lines of somebody else's message without a heading. -/
theorem complains_fromOther (hff : m.ffIgnored = 0) {myID : AnyID} {s₁ : σ}
    (hother : m.FromOther h s myID s₁) (hnone : m.heading h s₁ myID = none) :
    (∃ line, logs (m.callback.decide.run h s).trace =
        [CString.ofString "onTextMessageEvent", line]) ∧
      freed (m.callback.decide.run h s).trace = [] := by
  obtain ⟨t, htrace, hend⟩ := concluded_fromOther m h s hff hother
  rw [hnone] at hend
  obtain ⟨-, ⟨line, hline⟩, hfreed⟩ := hend
  rw [htrace, logs_append, freed_append, hline, hfreed]
  exact ⟨⟨line, rfl⟩, rfl⟩

/-- A message that is ignored, of the user's own or of nobody known. -/
theorem requests_notFromOther
    (hnot : m.ffIgnored = 0 → ¬ ∃ myID s₁, m.FromOther h s myID s₁) :
    requests (m.callback.decide.run h s).trace = [] := by
  rw [TextMessage.decide_callback, requests_decideTextMessage]
  by_cases hff : m.ffIgnored = 0
  · simp only [hff, if_true]
    cases hself : (ownIDAnswer h "onTextMessageEvent" m.S s).1 with
    | none => rfl
    | some myID =>
      have heq : m.fromID = myID := by
        by_contra hne
        exact hnot hff ⟨myID, _, Prod.ext hself rfl, hne⟩
      simp only [Option.elim_some, if_pos heq]
  · simp only [hff, if_false]

/-- An ignored message asks the library for nothing. -/
theorem noQuery_ignored (hff : m.ffIgnored ≠ 0) :
    ∀ e ∈ (m.callback.decide.run h s).trace, ¬ IsQuery e.call := by
  have hlog : (logMessage "onTextMessageEvent" .DEBUG m.S).Calls (fun c => ¬ IsQuery c) :=
    logMessage_calls (fun _ _ => id) _ _
  rw [TextMessage.decide_callback]
  unfold decideTextMessage
  rw [Prog.when_neg hff]
  have hcalls := hlog.bind fun _ => Prog.calls_pure ()
  exact hcalls.run_trace h s

/-- The requests of a message, either way. -/
theorem requests_cases :
    requests (m.callback.decide.run h s).trace = [] ∨
      ∃ myID s₁ title n, m.ffIgnored = 0 ∧ m.FromOther h s myID s₁ ∧
        m.heading h s₁ myID = some title ∧
        requests (m.callback.decide.run h s).trace = [n] ∧
        (n.map Str.text).toCall = .ok ⟨title, m.body, n.urgency⟩ := by
  by_cases hother : m.ffIgnored = 0 ∧ ∃ myID s₁, m.FromOther h s myID s₁
  · obtain ⟨hff, myID, s₁, hother⟩ := hother
    have hrequests := requests_fromOther m h s hff hother
    cases hhead : m.heading h s₁ myID with
    | none =>
      rw [hhead] at hrequests
      exact Or.inl hrequests
    | some title =>
      rw [hhead] at hrequests
      obtain ⟨n, hn, hbuilt⟩ := hrequests
      exact Or.inr ⟨myID, s₁, title, n, hff, hother, hhead, hn, hbuilt⟩
  · apply Or.inl
    apply requests_notFromOther
    intro hff hex
    exact hother ⟨hff, hex⟩

/-- **Text messages.** Whatever the library answers, the callback returns 0 and
    shows somebody else's message under its heading, if it has one; otherwise a
    line in the log says why not. It releases the name it got and no other. -/
theorem textMessages (u : Locals) :
    EndToEnd m h s (Activation.serve h ⟨m.callback, u⟩ s) := by
  have htrace : (Activation.serve h ⟨m.callback, u⟩ s).trace =
      (m.callback.decide.run h s).trace := serve_trace h _ s
  constructor
  case returns => exact serve_value h ⟨m.callback, u⟩ s
  case atMostOne =>
    rw [htrace]
    rcases requests_cases m h s with hnil | ⟨_, _, _, n, _, _, _, hn, _⟩
    · simp [hnil]
    · simp [hn]
  case ignored =>
    intro hff
    rw [htrace]
    exact ⟨noQuery_ignored m h s hff, requests_notFromOther m h s fun h0 => absurd h0 hff⟩
  case shown =>
    intro hff
    rw [htrace]
    constructor
    · intro hsome
      rcases requests_cases m h s with hnil | ⟨myID, s₁, title, _, _, hother, hhead, _, _⟩
      · exact absurd hnil hsome
      · exact ⟨myID, s₁, title, hother, hhead⟩
    · rintro ⟨myID, s₁, title, hother, hhead⟩
      have hrequests := requests_fromOther m h s hff hother
      rw [hhead] at hrequests
      obtain ⟨n, hn, -⟩ := hrequests
      simp [hn]
  case texts =>
    intro n hn
    rw [htrace] at hn
    rcases requests_cases m h s with hnil | ⟨myID, s₁, title, n', _, hother, hhead, hn', hbuilt⟩
    · rw [hnil] at hn
      cases hn
    · rw [hn', List.mem_singleton] at hn
      subst hn
      exact ⟨myID, s₁, title, hother, hhead, hbuilt⟩
  case released =>
    rw [htrace]
    exact clean_textMessage h s m.S m.targetMode m.fromID m.fromName m.message m.ffIgnored
  case complains =>
    intro hff myID s₁ hother hnone
    rw [htrace]
    exact complains_fromOther m h s hff hother hnone

end callback

end TeamspeakNotifications
