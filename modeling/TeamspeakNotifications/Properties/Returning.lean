import TeamspeakNotifications.Framework.Progress
import TeamspeakNotifications.Model.System

/-! # Callbacks return

    No callback waits for another one, retries or loops: it makes a few calls of
    the client library, and six of the desktop for each request. Whatever the
    library and libxdo answer, however callbacks overlap and whatever changes
    meanwhile, after 21 turns of its own a callback has returned.

    * `desktopCalls`, `onDesktop_within`: the calls of a request on the desktop.
    * `decide_within`: a callback makes at most 21 calls.
    * `callbacks_return`: so 21 turns are enough. There are callbacks that need
      them.
-/

namespace TeamspeakNotifications

open Interaction CLib

/-! ## Section 1: What calls cost -/

/-- How many calls are made on the desktop for a call of `plugin.c`. -/
def desktopCalls : Call → Nat
  | .request _ => 6
  | _ => 0

/-- A call and what is done for it. -/
def cost (c : Call) : Nat := desktopCalls c + 1

theorem focused_within (window : Window) : (focused window).Within (fun _ => 1) 4 := by
  apply Prog.within_call (n := 3)
  intro ts_pid
  apply Prog.within_call (n := 2)
  intro xdo
  apply Prog.within_call (n := 1)
  intro found
  apply Prog.within_call (n := 0)
  intro focus
  exact Prog.within_pure _ 0

theorem notify_within (u : Unspecified) (summary body : CString) (urgency : Urgency) :
    (notify u summary body urgency).Within (fun _ => 1) 6 := by
  unfold notify
  apply (focused_within u.window).bind (m := 2)
  intro res
  apply Prog.Within.when
  apply Prog.within_call (n := 1)
  intro _
  exact Prog.within_perform (S := DesktopSig) (Nat.le_refl 1)

theorem onDesktop_within (us : Notification Str → Unspecified) (c : Call) :
    (onDesktop us c).Within (fun _ => 1) (desktopCalls c) := by
  cases c with
  | request n =>
    show ((n.map Str.text).perform (us n)).Within _ 6
    rw [Notification.perform_eq]
    exact notify_within _ _ _ _
  | _ => exact Prog.within_pure _ _

/-! ## Section 2: The callbacks -/

section bounds

variable (S : UInt64)

theorem logMessage_within (message : String) (severity : LogLevel) :
    (logMessage message severity S).Within cost 1 :=
  Prog.within_perform (S := PluginSig) (le_refl 1)

theorem request_within (n : Notification Str) : (request n).Within cost 7 :=
  Prog.within_perform (S := PluginSig) (le_refl 7)

theorem freeMemory_within (p : LibString) : (freeMemory p).Within cost 1 :=
  Prog.within_perform (S := PluginSig) (le_refl 1)

theorem askSelf_within : (askSelf S).Within cost 1 := ⟨Nat.le_refl 1, fun _ => trivial⟩

/-- The two calls a callback starts with. -/
theorem entry_within (event : String) {β : Type} {f : Option AnyID → PluginM β} {n : Nat}
    (hf : ∀ self, (f self).Within cost n) :
    (do logMessage event .DEBUG S; let self ← askSelf S; f self).Within cost (1 + (1 + n)) := by
  apply (logMessage_within S event .DEBUG).bind
  intro _
  exact (askSelf_within S).bind hf

/-- The own channel, with what follows. That it is not known is logged. -/
theorem ownChannel_within {β : Type} {f : Option UInt64 → PluginM β} {n : Nat}
    (hknown : ∀ channel, (f (some channel)).Within cost (1 + n))
    (hunknown : (f none).Within cost n) :
    (askOwnChannel S >>= f).Within cost (1 + (1 + (1 + n))) := by
  have hfailed : ∀ message severity,
      (do logMessage message severity S; f none).Within cost (1 + n) := by
    intro message severity
    exact (logMessage_within S message severity).bind fun _ => hunknown
  unfold askOwnChannel
  rw [bind_assoc]
  apply Prog.within_call
  intro r
  cases r with
  | error c left => exact (hfailed "Could not get client ID." .ERROR).mono (by omega)
  | ok myID =>
    apply Prog.within_call
    intro r
    cases r with
    | error c left => exact hfailed "Could not get client's channel's ID." .DEBUG
    | ok channel => exact hknown channel

theorem named_within {query : PluginM (Reply LibString)} (hquery : query.Within cost 1)
    (message : String) {act : LibString → PluginM Unit} {n : Nat}
    (hact : ∀ name, (act name).Within cost (1 + n)) :
    (withName query message S act).Within cost (1 + (1 + n)) := by
  apply hquery.bind
  intro r
  cases r with
  | ok name => exact hact name
  | error c left => exact (logMessage_within S message .ERROR).mono (Nat.le_add_right 1 n)

theorem decideMembership_within (client : Str) (oldChannelID newChannelID : UInt64)
    (mover : Option Str) :
    (decideMembership S client oldChannelID newChannelID mover).Within cost 18 := by
  have hnew : (do
      let here ← askOwnChannel S
      Prog.when (here = some newChannelID) (request (.notify_join client mover))).Within cost 9 :=
    ownChannel_within S (n := 6) (fun _ => (request_within _).when) (Prog.within_pure () 6)
  apply ownChannel_within S (n := 15)
  · -- the channel is known, and a departure may be shown
    intro channel
    apply (Prog.Within.when (request_within _)).bind (m := 9)
    intro _
    exact hnew
  · -- nothing is shown then
    rw [Prog.when_neg (by simp)]
    exact hnew.mono (by decide)

theorem decideNamed_within (clientID : AnyID) (oldChannelID newChannelID : UInt64)
    (mover : Option Str) :
    (decideNamed S clientID oldChannelID newChannelID mover).Within cost 19 := by
  -- the query, and then 18 at most
  apply named_within S (n := 17) (Prog.within_perform (S := PluginSig) (le_refl 1))
  intro name
  exact decideMembership_within S (.lib name) oldChannelID newChannelID mover

/-- A name that is obtained, shown and released. -/
theorem borrowed_within {query : PluginM (Reply LibString)} (hquery : query.Within cost 1)
    (message : String) (shown : LibString → Notification Str) :
    (withName query message S (fun name => do
      request (shown name)
      freeMemory name)).Within cost 9 := by
  apply named_within S (n := 7) hquery
  intro name
  apply (request_within (shown name)).bind (m := 1)
  intro _
  exact freeMemory_within name

theorem decideChannelMessage_within (myID : AnyID) (fromName message : CString) :
    (decideChannelMessage S myID fromName message).Within cost 10 := by
  apply Prog.within_call (n := 9)
  intro r
  cases r with
  | error c left =>
    exact (logMessage_within S "Could not get current channel's ID." .ERROR).mono (by decide)
  | ok channel =>
    exact borrowed_within S (Prog.within_perform (S := PluginSig) (le_refl 1)) _ _

end bounds

/-- A callback makes at most 21 calls. -/
theorem decide_within (c : Callback) : c.decide.Within cost 21 := by
  cases c with
  | onUpdateChannelEditedEvent S channelID invokerID invokerName =>
    apply entry_within S _ (n := 19)
    intro self
    apply Prog.Within.when
    apply ownChannel_within S (n := 16)
    · intro channel
      exact (request_within _).when.mono (by decide)
    · exact Prog.within_pure () 16
  | onClientMoveEvent S clientID oldChannelID newChannelID =>
    apply entry_within S _ (n := 19)
    intro self
    exact (decideNamed_within S clientID oldChannelID newChannelID none).when
  | onClientMoveMovedEvent S clientID oldChannelID newChannelID moverID moverName =>
    apply entry_within S _ (n := 19)
    intro self
    cases self with
    | none => exact Prog.within_pure () 19
    | some myID =>
      dsimp only
      by_cases hmover : moverID = myID
      · rw [if_pos hmover]
        apply Prog.Within.when
        apply named_within S (n := 17) (Prog.within_perform (S := PluginSig) (le_refl 1))
        intro name
        exact (request_within _).mono (by decide)
      · rw [if_neg hmover]
        exact decideNamed_within S clientID oldChannelID newChannelID _
  | onTextMessageEvent S targetMode fromID fromName message ffIgnored =>
    apply (logMessage_within S _ .DEBUG).bind (m := 20)
    intro _
    apply Prog.Within.when
    apply (askSelf_within S).bind (m := 19)
    intro self
    cases self with
    | none => exact Prog.within_pure () 19
    | some myID =>
      apply Prog.Within.when
      -- the switch over `targetMode`
      split_ifs
      · apply Prog.Within.mono _ (by decide : 9 ≤ 19)
        exact borrowed_within S (Prog.within_perform (S := PluginSig) (le_refl 1)) _ _
      · exact (decideChannelMessage_within S myID fromName message).mono (by decide)
      · exact (request_within _).mono (by decide)
      · exact (logMessage_within S _ .WARNING).mono (by decide)
  | onClientPokeEvent S fromClientID pokerName message ffIgnored =>
    apply (logMessage_within S _ .DEBUG).bind (m := 20)
    intro _
    apply Prog.Within.when
    apply (askSelf_within S).bind (m := 19)
    intro self
    exact (request_within _).when.mono (by decide)
  | stub S which => exact Prog.within_pure () 21

theorem program_within (th : Thread) : th.program.Within (fun _ => 1) 21 := by
  have hbody : (th.activation.callback.body th.activation.locals).Within cost 21 := by
    rw [body_eq_decide]
    exact (decide_within _).bind (m := 0) fun _ => Prog.within_pure _ 0
  exact Prog.Within.inline (onDesktop_within th.unspecified) hbody

/-! ## Section 3: Overlapping callbacks -/

section overlapping

variable {σ κ : Type} {n : Nat} (H : Handler SystemSig σ) (e : κ → σ → σ)
  (threads : Fin n → Thread) (ms : List (Moment (Fin n) κ)) (s : σ)

/-- **Callbacks return.** No callback ever makes more than 21 calls, those on the
    desktop included, and it has returned once it has had 21 turns. -/
theorem callbacks_return (i : Fin n) :
    (part i (overlapping H e threads ms s).1).length ≤ 21 ∧
      (21 ≤ turns i ms → Returned H e threads ms s i) := by
  have hbound := program_within (threads i)
  constructor
  · exact hbound.length_le (Pool.run_makes H e ms ⟨fun i => (threads i).program, s⟩ i)
  · intro hms
    exact Pool.run_finished H e ms ⟨fun i => (threads i).program, s⟩ i hbound hms

end overlapping

/-- Client 2 is reported to go from the own channel to the own channel. -/
def leaveAndJoin (_ : Fin 1) : Thread :=
  ⟨⟨.onClientMoveEvent 0 2 10 10, default⟩, default⟩

/-- It takes 21 turns to report both, and no less. -/
theorem callbacks_return_leaveAndJoin :
    Returned lobbyDesktop (fun _ s => s) leaveAndJoin
        (List.replicate 21 (Moment.turn 0 : Moment (Fin 1) Unit)) () 0 ∧
      ¬ Returned lobbyDesktop (fun _ s => s) leaveAndJoin
        (List.replicate 20 (Moment.turn 0 : Moment (Fin 1) Unit)) () 0 := by
  constructor
  · exact (callbacks_return lobbyDesktop (fun _ s => s) leaveAndJoin _ () 0).2 (by decide)
  · rintro ⟨res, hres⟩
    cases hres

end TeamspeakNotifications
