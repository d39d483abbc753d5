import TeamspeakNotifications.Model.Notify

/-! # Runs of `notify`

    What a call of `notify` does to the desktop: four questions to the system
    and to libxdo, then, unless the answer is that the TeamSpeak window has the
    focus, one line of debug output and one command.
-/

namespace TeamspeakNotifications

open Interaction CLib

/-- An environment that answers the calls of `notify.c`. -/
abbrev Desktop (σ : Type) := Handler DesktopSig σ

/-- The command line a call hands to `system`, if it does. -/
def commandOf (e : Event DesktopSig) : Option CString :=
  match e.call with
  | .system command => some command
  | _ => none

/-- The command lines handed to `system` in a trace, in order. -/
def commands (t : List (Event DesktopSig)) : List CString := t.filterMap commandOf

@[simp] theorem commands_append (t u : List (Event DesktopSig)) :
    commands (t ++ u) = commands t ++ commands u := List.filterMap_append

/-- The calls of `notify` after the focus check. -/
def Shows : DesktopCall → Prop
  | .printf _ => True
  | .system _ => True
  | _ => False

theorem shows_notify (u : Unspecified) (summary body : CString) (res : Int) :
    (Prog.when (res ≠ 1) (do
      let command := notify_command u.command summary body
      printf (format (CString.ofString "DEBUG: %s\n") [command])
      system command)).Calls Shows := by
  have hprintf : ∀ output, (printf output).Calls Shows :=
    fun _ => (Prog.calls_perform _).mpr trivial
  have hsystem : ∀ command, (system command).Calls Shows :=
    fun _ => (Prog.calls_perform _).mpr trivial
  apply Prog.Calls.when
  apply (hprintf _).bind
  intro _
  exact hsystem _

section run

variable {σ : Type} (d : Desktop σ) (s : σ)

/-- What `focused` answers when called in the state `s`. -/
def focusedAt (window : Window) : Int := ((focused window).run d s).value

theorem commands_focused (window : Window) :
    commands ((focused window).run d s).trace = [] := rfl

/-- One command if the TeamSpeak window is not focused, none otherwise. -/
theorem commands_notify (u : Unspecified) (summary body : CString) (urgency : Urgency) :
    commands ((notify u summary body urgency).run d s).trace =
      if focusedAt d s u.window = 1 then [] else [notify_command u.command summary body] := by
  unfold notify
  rw [Prog.run_bind]
  simp only [commands_append, commands_focused, List.nil_append]
  by_cases hf : focusedAt d s u.window = 1
  · have hvalue : ((focused u.window).run d s).value = 1 := hf
    rw [if_pos hf, hvalue]
    rfl
  · have hvalue : ((focused u.window).run d s).value ≠ 1 := hf
    -- the debug output is no command
    rw [if_neg hf, Prog.when_pos hvalue]
    rfl

end run

/-- A desktop on which another process, 2, has the focus. -/
def otherFocused : Desktop Unit := fun c s =>
  match c with
  | .getpid => ((1 : Int), s)
  | .xdo_new => (some 0, s)
  | .xdo_free _ => ((), s)
  | .xdo_get_focused_window _ => (some 7, s)
  | .xdo_get_pid_window _ _ => ((2 : Int), s)
  | .printf _ => ((), s)
  | .system _ => ((), s)

/-! ## Requests one after the other -/

/-- Carry out a request: assemble the texts, then call `notify`. An overflow of
    a buffer would leave nothing to say; there is none (`perform_eq`). -/
def Notification.perform (u : Unspecified) (n : Notification CString) : DesktopM Unit :=
  match n.toCall with
  | .ok c => c.perform u
  | .error .overflow => pure ()

theorem Notification.perform_eq (u : Unspecified) (n : Notification CString) :
    n.perform u = TeamspeakNotifications.notify u n.summary n.body n.urgency := by
  unfold Notification.perform
  rw [Notification.toCall_eq]
  rfl

theorem commands_perform {σ : Type} (d : Desktop σ) (s : σ) (u : Unspecified)
    (n : Notification CString) :
    commands ((n.perform u).run d s).trace =
      if focusedAt d s u.window = 1 then []
      else [notify_command u.command n.summary n.body] := by
  rw [Notification.perform_eq]
  exact commands_notify d s u n.summary n.body n.urgency

/-- Without the focus, a command line that can be counted is handed over in
    full. -/
theorem commands_perform_of_printable {σ : Type} (d : Desktop σ) (s : σ) {u : Unspecified}
    {n : Notification CString} (hprint : n.Printable) (hfocus : focusedAt d s u.window ≠ 1) :
    commands ((n.perform u).run d s).trace = [n.line] := by
  rw [commands_perform, if_neg hfocus, notify_command_of_printable hprint]
  rfl

/-- One request carried out: the desktop's state before and after, the calls and
    their answers. -/
structure NotifyStep (σ : Type) where
  before : σ
  trace : List (Event DesktopSig)
  after : σ

/-- Carry out one request. -/
def Notification.serve {σ : Type} (d : Desktop σ) (u : Unspecified) (n : Notification CString)
    (s : σ) : NotifyStep σ :=
  let o := (n.perform u).run d s
  ⟨s, o.trace, o.state⟩

/-- Carry out requests one after the other. `us i` is what the source leaves open
    in the `i`-th of them. -/
def performAll {σ : Type} (d : Desktop σ) :
    (us : Nat → Unspecified) → List (Notification CString) → σ → List (NotifyStep σ)
  | _, [], _ => []
  | us, n :: ns, s =>
    n.serve d (us 0) s ::
      performAll d (fun i => us (i + 1)) ns (n.serve d (us 0) s).after

end TeamspeakNotifications
