import TeamspeakNotifications.Framework.Ledger
import TeamspeakNotifications.Model.World

/-! # The strings of the client library

    Every string a query hands out has to be given back with `freeMemory`. The
    library is arbitrary: it answers or fails as it likes, and it may hand out
    any string at any time.

    * `actionOf`: what an event means for the ledger of strings.
    * `ObtainsName`: a move callback gets the name it asks for.
    * `nothingOutstanding_iff`: a run leaves no string behind exactly when no
      move callback ever gets its name. The two message notifications release
      theirs, the move callbacks never do.
-/

namespace TeamspeakNotifications

open Interaction CLib Ledger

/-! ## Section 1: The ledger of a run -/

/-- The library's string behind a pointer, if it is one. -/
def Str.owned? : Str → Option LibString
  | .arg _ => none
  | .lib p => some p

/-- What an event means for the ledger. -/
def actionOf : Event PluginSig → List (Action LibString)
  | ⟨.getClientVariableAsString _ _ _, (r : Reply LibString)⟩ =>
    r.result?.toList.map .acquire
  | ⟨.getChannelVariableAsString _ _ _, (r : Reply LibString)⟩ =>
    r.result?.toList.map .acquire
  | ⟨.getServerVariableAsString _ _, (r : Reply LibString)⟩ => r.result?.toList.map .acquire
  | ⟨.freeMemory p, _⟩ => [.release p]
  | ⟨.request n, _⟩ => (n.strings.filterMap Str.owned?).map .use
  | _ => []

/-- The ledger of a trace. -/
def actions (t : Trace) : List (Action LibString) := t.flatMap actionOf

@[simp] theorem actions_append (t u : Trace) : actions (t ++ u) = actions t ++ actions u :=
  List.flatMap_append

/-- Between any two callbacks of the run, every string obtained so far has been
    released once and not been used afterwards. -/
def NothingOutstanding {σ : Type} (h : Library σ) (acts : List Activation) (s : σ) : Prop :=
  ∀ done rest, runCallbacks h acts s = done ++ rest →
    Clean (done.map (fun st => actions st.trace)).flatten

/-! ## Section 2: Programs that do not touch strings -/

/-- The call neither obtains nor passes nor releases a string of the library. -/
def Silent : Call → Prop
  | .getClientVariableAsString _ _ _ => False
  | .getChannelVariableAsString _ _ _ => False
  | .getServerVariableAsString _ _ => False
  | .freeMemory _ => False
  | .request n => n.strings.filterMap Str.owned? = []
  | _ => True

/-- The call is not a release. -/
def Keeping : Call → Prop
  | .freeMemory _ => False
  | _ => True

section programs

variable {σ : Type} (h : Library σ) (s : σ) (S : UInt64)

theorem actions_of_silent {α : Type} {p : PluginM α} (hp : p.Calls Silent) :
    actions (p.run h s).trace = [] := by
  apply List.flatMap_eq_nil_iff.mpr
  intro e he
  have hsilent : Silent e.call := hp.run_trace h s e he
  obtain ⟨c, r⟩ := e
  cases c with
  | request n => exact List.map_eq_nil_iff.mpr hsilent
  | logMessage | getClientID | getChannelOfClient => rfl
  | getClientVariableAsString | getChannelVariableAsString | getServerVariableAsString
  | freeMemory => exact hsilent.elim

theorem not_isRelease_of_keeping {α : Type} {p : PluginM α} (hp : p.Calls Keeping) :
    ∀ a ∈ actions (p.run h s).trace, ¬ a.IsRelease := by
  intro a ha
  obtain ⟨e, he, hae⟩ := List.mem_flatMap.mp ha
  have hkeep := hp.run_trace h s e he
  obtain ⟨c, r⟩ := e
  cases c with
  | freeMemory => exact hkeep.elim
  | request n =>
    obtain ⟨p, -, rfl⟩ := List.mem_map.mp hae
    exact id
  | logMessage | getClientID | getChannelOfClient => cases hae
  | getClientVariableAsString | getChannelVariableAsString | getServerVariableAsString =>
    obtain ⟨p, -, rfl⟩ := List.mem_map.mp hae
    exact id

/-- The two calls a callback starts with are not about strings. -/
theorem actions_entry (event : String) {β : Type} (f : Option AnyID → PluginM β) :
    actions ((do logMessage event .DEBUG S; let self ← askSelf S; f self).run h s).trace =
      actions ((f (ownIDAnswer h event S s).1).run h (ownIDAnswer h event S s).2).trace := by
  rw [run_entry]
  rfl

/-- A name that is obtained goes on the list, and then what is done with it
    counts. -/
theorem actions_withName {query : PluginM (Reply LibString)}
    (hquery : actions (query.run h s).trace =
      (query.run h s).value.result?.toList.map .acquire)
    (message : String) (act : LibString → PluginM Unit) :
    actions ((withName query message S act).run h s).trace =
      (query.run h s).value.result?.elim [] (fun name =>
        .acquire name :: actions ((act name).run h (query.run h s).state).trace) := by
  unfold withName
  rw [Prog.run_bind, actions_append, hquery]
  cases (query.run h s).value with
  | ok name => rfl
  | error c left => rfl

/-- A name that is shown and then released. -/
theorem clean_withName {query : PluginM (Reply LibString)}
    (hquery : actions (query.run h s).trace =
      (query.run h s).value.result?.toList.map .acquire)
    (message : String) (shown : LibString → Notification Str)
    (hshow : ∀ name, ∀ p ∈ (shown name).strings.filterMap Str.owned?, p = name) :
    Clean (actions ((withName query message S (fun name => do
      request (shown name)
      freeMemory name)).run h s).trace) := by
  rw [actions_withName h s S hquery]
  cases (query.run h s).value.result? with
  | none => exact clean_nil
  | some name => exact clean_borrow name _ (hshow name)

/-- A name that is obtained and never released. -/
theorem clean_withName_iff_of_keeping {query : PluginM (Reply LibString)}
    (hquery : actions (query.run h s).trace =
      (query.run h s).value.result?.toList.map .acquire)
    (message : String) {act : LibString → PluginM Unit}
    (hact : ∀ name, (act name).Calls Keeping) :
    Clean (actions ((withName query message S act).run h s).trace) ↔
      (query.run h s).value.result? = none := by
  rw [actions_withName h s S hquery]
  cases (query.run h s).value.result? with
  | none => exact iff_of_true clean_nil rfl
  | some name =>
    have hkept : ∀ a ∈ actions ((act name).run h (query.run h s).state).trace,
        ¬ a.IsRelease := not_isRelease_of_keeping h _ (hact name)
    exact iff_of_false (not_clean_of_kept name _ hkept) (by simp)

end programs

/-! ## Section 3: One callback -/

section callback

variable {σ : Type} (h : Library σ) (s : σ)

/-- Called in the state `s`, a move callback gets the name it asks for. -/
def ObtainsName : Callback → Prop
  | .onClientMoveEvent S clientID _ _ =>
    match ownIDAnswer h "onClientMoveEvent" S s with
    | (self, s₁) =>
      self ≠ some clientID ∧ (nicknameAnswer h S s₁ clientID).1.result? ≠ none
  | .onClientMoveMovedEvent S clientID _ newChannelID moverID _ =>
    match ownIDAnswer h "onClientMoveMovedEvent" S s with
    | (none, _) => False
    | (some myID, s₁) =>
      if moverID = myID then
        clientID ≠ myID ∧ (channelNameAnswer h S s₁ newChannelID).1.result? ≠ none
      else (nicknameAnswer h S s₁ clientID).1.result? ≠ none
  | _ => False

theorem clean_named (S : UInt64) (clientID : AnyID) (oldChannelID newChannelID : UInt64)
    (mover : Option Str) :
    Clean (actions ((decideNamed S clientID oldChannelID newChannelID mover).run h s).trace) ↔
      (nicknameAnswer h S s clientID).1.result? = none :=
  clean_withName_iff_of_keeping h s S (List.append_nil _) _ fun _ =>
    decideMembership_calls (fun _ _ => trivial) trivial (fun _ => trivial) trivial trivial _ _

theorem clean_move (S : UInt64) (clientID : AnyID) (oldChannelID newChannelID : UInt64) :
    Clean (actions ((decideMove S clientID oldChannelID newChannelID).run h s).trace) ↔
      ¬ ObtainsName h s (.onClientMoveEvent S clientID oldChannelID newChannelID) := by
  unfold decideMove
  rw [actions_entry]
  simp only [ObtainsName]
  generalize ownIDAnswer h "onClientMoveEvent" S s = answer
  obtain ⟨self, s₁⟩ := answer
  by_cases hself : self = some clientID
  · -- the own client's move: no name is asked for
    rw [Prog.when_neg (not_not.mpr hself)]
    exact iff_of_true clean_nil (fun hn => hn.1 hself)
  · rw [Prog.when_pos hself, clean_named h s₁ S clientID oldChannelID newChannelID none]
    simp [hself]

theorem clean_moved (S : UInt64) (clientID : AnyID) (oldChannelID newChannelID : UInt64)
    (moverID : AnyID) (moverName : CString) :
    Clean (actions ((decideMoved S clientID oldChannelID newChannelID moverID
        moverName).run h s).trace) ↔
      ¬ ObtainsName h s (.onClientMoveMovedEvent S clientID oldChannelID newChannelID moverID
        moverName) := by
  unfold decideMoved
  rw [actions_entry]
  simp only [ObtainsName]
  generalize ownIDAnswer h "onClientMoveMovedEvent" S s = answer
  obtain ⟨self, s₁⟩ := answer
  cases self with
  | none => exact iff_of_true clean_nil id
  | some myID =>
    by_cases hmover : moverID = myID
    · -- the channel's name is asked for, unless the client moved itself
      simp only [hmover, if_true]
      by_cases hclient : clientID = myID
      · rw [Prog.when_neg (not_not.mpr hclient)]
        exact iff_of_true clean_nil (fun hn => hn.1 hclient)
      · rw [Prog.when_pos hclient, clean_withName_iff_of_keeping h s₁ S (List.append_nil _) _
          fun name => (Prog.calls_perform _).mpr trivial, run_getChannelName]
        simp [hclient]
    · -- the moved client's nickname is asked for
      simp only [hmover, if_false]
      rw [clean_named h s₁ S clientID oldChannelID newChannelID _]
      simp

theorem clean_serverMessage (S : UInt64) (fromName message : CString) :
    Clean (actions ((decideServerMessage S fromName message).run h s).trace) := by
  apply clean_withName h s S (List.append_nil _) _
    (fun name => .notify_server_message (.lib name) (.arg fromName) (.arg message))
  -- of the strings shown only the name is the library's
  intro name p hp
  simpa [Notification.strings, Str.owned?] using hp

theorem clean_channelMessage (S : UInt64) (myID : AnyID) (fromName message : CString) :
    Clean (actions ((decideChannelMessage S myID fromName message).run h s).trace) := by
  unfold decideChannelMessage
  rw [Prog.run_bind]
  show Clean (actions (Prog.run h _ _).trace)
  cases ((getChannelOfClient S myID).run h s).value with
  | error c left => exact clean_nil
  | ok channel =>
    apply clean_withName h _ S (List.append_nil _) _
      (fun name => .notify_channel_message (.lib name) (.arg fromName) (.arg message))
    intro name p hp
    simpa [Notification.strings, Str.owned?] using hp

theorem clean_textMessage (S : UInt64) (targetMode fromID : AnyID)
    (fromName message : CString) (ffIgnored : Int) :
    Clean (actions ((decideTextMessage S targetMode fromID fromName message ffIgnored).run
      h s).trace) := by
  unfold decideTextMessage
  by_cases hff : ffIgnored = 0
  · rw [Prog.when_pos hff, actions_entry]
    generalize ownIDAnswer h "onTextMessageEvent" S s = answer
    obtain ⟨self, s₁⟩ := answer
    cases self with
    | none => exact clean_nil
    | some myID =>
      by_cases hself : fromID = myID
      · simp only [Prog.when_neg (not_not.mpr hself)]
        exact clean_nil
      · simp only [Prog.when_pos hself]
        split_ifs
        · exact clean_serverMessage h s₁ S fromName message
        · exact clean_channelMessage h s₁ S myID fromName message
        · exact clean_nil
        · exact clean_nil
  · rw [Prog.when_neg hff]
    exact clean_nil

theorem decideEdited_silent (S : UInt64) (channelID : UInt64) (invokerID : AnyID)
    (invokerName : CString) :
    (decideEdited S channelID invokerID invokerName).Calls Silent := by
  have hask : (askOwnChannel S).Calls Silent :=
    askOwnChannel_calls (fun _ _ => trivial) trivial fun _ => trivial
  have hrequest : (request (.notify_channel_edited (.arg invokerName))).Calls Silent :=
    (Prog.calls_perform _).mpr rfl
  unfold decideEdited
  apply entry_calls (fun _ _ => trivial) trivial
  intro self
  apply Prog.Calls.when
  apply hask.bind
  intro here
  exact hrequest.when

theorem decidePoke_silent (S : UInt64) (fromClientID : AnyID) (pokerName message : CString)
    (ffIgnored : Int) :
    (decidePoke S fromClientID pokerName message ffIgnored).Calls Silent := by
  have hlog : (logMessage "onClientPokeEvent" .DEBUG S).Calls Silent :=
    logMessage_calls (fun _ _ => trivial) _ _
  have hself : (askSelf S).Calls Silent := askSelf_calls trivial
  have hrequest : (request (.notify_poke (.arg pokerName) (.arg message))).Calls Silent :=
    (Prog.calls_perform _).mpr rfl
  unfold decidePoke
  apply hlog.bind
  intro _
  apply Prog.Calls.when
  apply hself.bind
  intro self
  exact hrequest.when

/-- The step: a callback leaves nothing behind unless it is a move callback that
    gets its name. -/
theorem clean_decide_iff (c : Callback) :
    Clean (actions (c.decide.run h s).trace) ↔ ¬ ObtainsName h s c := by
  cases c with
  | onClientMoveEvent S clientID oldChannelID newChannelID =>
    exact clean_move h s S clientID oldChannelID newChannelID
  | onClientMoveMovedEvent S clientID oldChannelID newChannelID moverID moverName =>
    exact clean_moved h s S clientID oldChannelID newChannelID moverID moverName
  | onUpdateChannelEditedEvent S channelID invokerID invokerName =>
    have hnil := actions_of_silent h s (decideEdited_silent S channelID invokerID invokerName)
    exact iff_of_true (hnil ▸ clean_nil) id
  | onTextMessageEvent S targetMode fromID fromName message ffIgnored =>
    exact iff_of_true (clean_textMessage h s S targetMode fromID fromName message ffIgnored) id
  | onClientPokeEvent S fromClientID pokerName message ffIgnored =>
    have hnil := actions_of_silent h s
      (decidePoke_silent S fromClientID pokerName message ffIgnored)
    exact iff_of_true (hnil ▸ clean_nil) id
  | stub S which => exact iff_of_true clean_nil id

end callback

/-! ## Section 4: Runs -/

theorem nothingOutstanding_iff_clean {σ : Type} (h : Library σ) (acts : List Activation)
    (s : σ) :
    NothingOutstanding h acts s ↔
      ∀ st ∈ runCallbacks h acts s, Clean (actions st.trace) := by
  have hprefixes := clean_prefixes_iff ((runCallbacks h acts s).map fun st => actions st.trace)
  rw [List.forall_mem_map] at hprefixes
  rw [← hprefixes]
  unfold NothingOutstanding
  constructor
  · intro hrun done rest hsplit
    obtain ⟨done', rest', hrun', rfl, rfl⟩ := List.map_eq_append_iff.mp hsplit
    exact hrun done' rest' hrun'
  · intro hledgers done rest hsplit
    exact hledgers _ (rest.map fun st => actions st.trace) (by rw [hsplit, List.map_append])

/-- **String ledger.** Nothing is outstanding between the callbacks of a run if
    and only if no move callback of the run gets the name it asks for. -/
theorem nothingOutstanding_iff {σ : Type} (h : Library σ) (acts : List Activation) (s : σ) :
    NothingOutstanding h acts s ↔
      ∀ st ∈ runCallbacks h acts s, ¬ ObtainsName h st.before st.activation.callback := by
  rw [nothingOutstanding_iff_clean]
  apply forall₂_congr
  intro st hst
  rw [serve_of_mem h s hst, serve_trace]
  exact clean_decide_iff h st.before st.activation.callback

/-- One client moves in the lobby, and its nickname stays behind. -/
theorem not_nothingOutstanding_move :
    ¬ ∀ (acts : List Activation),
      NothingOutstanding (answering fun _ => lobby).handler acts () := by
  intro h
  have hclean := (nothingOutstanding_iff_clean _ _ _).mp
    (h [⟨.onClientMoveEvent 0 2 20 10, default⟩]) _ (List.mem_singleton.mpr rfl)
  rw [serve_trace] at hclean
  exact (clean_decide_iff _ _ _).mp hclean ⟨by decide, by decide⟩

end TeamspeakNotifications
