import TeamspeakNotifications.Framework.CString
import TeamspeakNotifications.Framework.Interaction

/-! # Model of `notify.c`

    The eight `notify_*` functions assemble a summary and a body in buffers of
    their own and end in one call of `notify`. `notify` asks the X server
    whether the window of the TeamSpeak client has the focus, and if not hands
    a `notify-send` command line to `system`.

    * `Notification`: a call of one of these functions, with its arguments.
    * `notify_server_message` ... `notify_channel_edited`: the assembly. Each
      returns the arguments of its final call of `notify`, or the overflow of a
      buffer.
    * `focused`, `notify`: programs over the calls of libxdo, `getpid`,
      `printf` and `system`.
-/

namespace TeamspeakNotifications

open Interaction CLib

/-! ## Section 1: Requests -/

/-- `urgency_t`. -/
inductive Urgency where
  | LOW | NORMAL | CRITICAL
  deriving DecidableEq

/-- The arguments of a call of `notify`. -/
structure NotifyCall where
  summary : CString
  body : CString
  urgency : Urgency
  deriving DecidableEq

/-- A call of one of the functions of `notify.h`. `τ` is what a `char *` is
    represented by; `mover` is `none` for `NULL`. -/
inductive Notification (τ : Type) where
  | notify (summary body : τ) (urgency : Urgency)
  | notify_server_message (server sender message : τ)
  | notify_channel_message (channel sender message : τ)
  | notify_private_message (sender message : τ)
  | notify_join (client : τ) (mover : Option τ)
  | notify_leave (client : τ) (mover : Option τ)
  | notify_move (channel mover : τ)
  | notify_poke (poker message : τ)
  | notify_channel_edited (editer : τ)
  deriving DecidableEq

/-- Change how strings are represented. -/
def Notification.map {τ υ : Type} (f : τ → υ) : Notification τ → Notification υ
  | .notify s b u => .notify (f s) (f b) u
  | .notify_server_message s n m => .notify_server_message (f s) (f n) (f m)
  | .notify_channel_message c n m => .notify_channel_message (f c) (f n) (f m)
  | .notify_private_message n m => .notify_private_message (f n) (f m)
  | .notify_join c m => .notify_join (f c) (m.map f)
  | .notify_leave c m => .notify_leave (f c) (m.map f)
  | .notify_move c m => .notify_move (f c) (f m)
  | .notify_poke p m => .notify_poke (f p) (f m)
  | .notify_channel_edited e => .notify_channel_edited (f e)

/-- The strings a request is made with. -/
def Notification.strings {τ : Type} : Notification τ → List τ
  | .notify s b _ => [s, b]
  | .notify_server_message s n m => [s, n, m]
  | .notify_channel_message c n m => [c, n, m]
  | .notify_private_message n m => [n, m]
  | .notify_join c m => c :: m.toList
  | .notify_leave c m => c :: m.toList
  | .notify_move c m => [c, m]
  | .notify_poke p m => [p, m]
  | .notify_channel_edited e => [e]

/-! ## Section 2: Text assembly -/

/-- `strcpy` of the first string into a `char[cap]`, `strcat` of the second. -/
def concat2 (cap : Nat) (a b : CString) : Except Overflow CString := do
  let buf ← strcpy cap a
  let buf ← strcat buf b
  return buf.str

/-- `strcpy` of the first string into a `char[cap]`, `strcat` of the others. -/
def concat3 (cap : Nat) (a b c : CString) : Except Overflow CString := do
  let buf ← strcpy cap a
  let buf ← strcat buf b
  let buf ← strcat buf c
  return buf.str

/-- The message notifications: `<sender>: <message>` under a given summary. -/
def notify_message (summary : CString) (urgency : Urgency) (sender message : CString) :
    Except Overflow NotifyCall := do
  let separator := CString.ofString ": "
  let body ← concat3 (sender.length + separator.length + message.length + 1)
    sender separator message
  return ⟨summary, body, urgency⟩

def notify_server_message (server sender message : CString) : Except Overflow NotifyCall :=
  notify_message server .LOW sender message

def notify_channel_message (channel sender message : CString) : Except Overflow NotifyCall :=
  notify_message channel .LOW sender message

def notify_private_message (sender message : CString) : Except Overflow NotifyCall :=
  notify_message (CString.ofString "PM:") .CRITICAL sender message

/-- The membership notifications: `<client><suffix>`, with the mover if there
    is one. -/
def notify_membership (suffix : CString) (client : CString) (mover : Option CString) :
    Except Overflow NotifyCall := do
  let summary ← concat2 (client.length + suffix.length + 1) client suffix
  match mover with
  | none => return ⟨summary, CString.ofString "", .NORMAL⟩
  | some mover =>
    let bprefix := CString.ofString "Was moved by "
    let bsuffix := CString.ofString "."
    let bsize := bprefix.length + mover.length + bsuffix.length + 1
    let body ← concat3 bsize bprefix mover bsuffix
    return ⟨summary, body, .NORMAL⟩

def notify_join (client : CString) (mover : Option CString) : Except Overflow NotifyCall :=
  notify_membership (CString.ofString " joined the channel.") client mover

def notify_leave (client : CString) (mover : Option CString) : Except Overflow NotifyCall :=
  notify_membership (CString.ofString " left the channel.") client mover

def notify_move (channel mover : CString) : Except Overflow NotifyCall := do
  let sprefix := CString.ofString "You left "
  let ssuffix := CString.ofString "."
  let ssize := sprefix.length + channel.length + ssuffix.length + 1
  let summary ← concat3 ssize sprefix channel ssuffix
  let bprefix := CString.ofString "You were moved by "
  let bsuffix := CString.ofString "!"
  let bsize := bprefix.length + mover.length + bsuffix.length + 1
  let body ← concat3 bsize bprefix mover bsuffix
  return ⟨summary, body, .CRITICAL⟩

def notify_poke (poker message : CString) : Except Overflow NotifyCall := do
  let suffix := CString.ofString " poked you!"
  let summary ← concat2 (poker.length + suffix.length + 1) poker suffix
  return ⟨summary, message, .CRITICAL⟩

def notify_channel_edited (editer : CString) : Except Overflow NotifyCall := do
  let suffix := CString.ofString " edited your channel."
  let summary ← concat2 (editer.length + suffix.length + 1) editer suffix
  return ⟨summary, CString.ofString "", .LOW⟩

/-- The call of `notify` a request ends in. -/
def Notification.toCall : Notification CString → Except Overflow NotifyCall
  | .notify s b u => .ok ⟨s, b, u⟩
  | .notify_server_message s n m => TeamspeakNotifications.notify_server_message s n m
  | .notify_channel_message c n m => TeamspeakNotifications.notify_channel_message c n m
  | .notify_private_message n m => TeamspeakNotifications.notify_private_message n m
  | .notify_join c m => TeamspeakNotifications.notify_join c m
  | .notify_leave c m => TeamspeakNotifications.notify_leave c m
  | .notify_move c m => TeamspeakNotifications.notify_move c m
  | .notify_poke p m => TeamspeakNotifications.notify_poke p m
  | .notify_channel_edited e => TeamspeakNotifications.notify_channel_edited e

/-! ## Section 3: The desktop -/

/-- An X window. -/
abbrev Window := UInt64

/-- What `notify.c` calls. An `xdo_t *` is `none` when it is `NULL`. The
    release of a context, `xdo_free`, is part of the library. -/
inductive DesktopCall where
  | getpid
  | xdo_new
  | xdo_free (xdo : Nat)
  | xdo_get_focused_window (xdo : Option Nat)
  | xdo_get_pid_window (xdo : Option Nat) (window : Window)
  | printf (output : CString)
  | system (command : CString)
  deriving DecidableEq

/-- `xdo_get_focused_window` answers with the window it wrote, `none` if it
    failed and left the variable alone. -/
def DesktopCall.Answer : DesktopCall → Type
  | .getpid => Int
  | .xdo_new => Option Nat
  | .xdo_free _ => Unit
  | .xdo_get_focused_window _ => Option Window
  | .xdo_get_pid_window _ _ => Int
  | .printf _ => Unit
  | .system _ => Unit

def DesktopSig : Sig := ⟨DesktopCall, DesktopCall.Answer⟩

abbrev DesktopM := Prog DesktopSig

def getpid : DesktopM Int := @Prog.perform DesktopSig .getpid

def xdo_new : DesktopM (Option Nat) := @Prog.perform DesktopSig .xdo_new

def xdo_get_focused_window (xdo : Option Nat) : DesktopM (Option Window) :=
  @Prog.perform DesktopSig (.xdo_get_focused_window xdo)

def xdo_get_pid_window (xdo : Option Nat) (window : Window) : DesktopM Int :=
  @Prog.perform DesktopSig (.xdo_get_pid_window xdo window)

def printf (output : CString) : DesktopM Unit := @Prog.perform DesktopSig (.printf output)

def system (command : CString) : DesktopM Unit :=
  @Prog.perform DesktopSig (.system command)

/-! ## Section 4: `focused` and `notify` -/

def COMMAND_NOTIFY : CString := CString.ofString "notify-send"

def APP_NAME : CString := CString.ofString "TeamSpeak 3"

/-- Return 1 if the TeamSpeak window is focused, otherwise 0. `window` is what
    the uninitialised local holds. -/
def focused (window : Window) : DesktopM Int := do
  let ts_pid ← getpid
  let xdo ← xdo_new
  let written ← xdo_get_focused_window xdo
  -- neither the context nor the outcome is checked
  let window := written.getD window
  let focus ← xdo_get_pid_window xdo window
  -- the context is not released
  return if focus = ts_pid then 1 else 0

/-- The size of the command buffer. -/
def notify_size (summary body : CString) : Nat :=
  let formatting := 15 -- spaces, quotes, the option and the terminator
  COMMAND_NOTIFY.length + summary.length + APP_NAME.length + body.length + formatting

def notify_format : CString := CString.ofString "%s \"%s\" -a \"%s\" \"%s\""

/-- The string in the command buffer after `snprintf`; `left` if that fails. -/
def notify_command (left summary body : CString) : CString :=
  snprintf left (notify_size summary body) notify_format
    [COMMAND_NOTIFY, summary, APP_NAME, body]

/-- What the source leaves open: the contents of the uninitialised `window`, and
    those of the command buffer after a failure of `snprintf`. -/
structure Unspecified where
  window : Window
  command : CString
  deriving Inhabited

/-- `urgency` is a parameter of the function, which does not use it. -/
def notify (u : Unspecified) (summary body : CString) (_urgency : Urgency) :
    DesktopM Unit := do
  let res ← focused u.window
  -- do not display the notification if TeamSpeak is focused
  Prog.when (res ≠ 1) do
    -- the result of `snprintf` is not checked
    let command := notify_command u.command summary body
    printf (format (CString.ofString "DEBUG: %s\n") [command])
    system command

def NotifyCall.perform (u : Unspecified) (c : NotifyCall) : DesktopM Unit :=
  notify u c.summary c.body c.urgency

/-! ## Section 5: What the assembly computes -/

section assembly

variable {cap : Nat} {a b c : CString}

theorem concat2_of_fits (h : a.length + b.length < cap) :
    concat2 cap a b = .ok (a ++ b) := by
  have hab : (a ++ b).length < cap := by
    rw [CString.length_append]
    exact h
  have ha : a.length < cap := by omega
  unfold concat2
  rw [strcpy_of_fits ha]
  show (do let buf ← strcat ⟨a, ha⟩ b; pure buf.str) = _
  rw [strcat_of_fits hab]
  rfl

theorem concat3_of_fits (h : a.length + b.length + c.length < cap) :
    concat3 cap a b c = .ok (a ++ b ++ c) := by
  have habc : (a ++ b ++ c).length < cap := by
    rw [CString.length_append, CString.length_append]
    exact h
  have hab : (a ++ b).length < cap := by
    rw [CString.length_append]
    omega
  have ha : a.length < cap := by omega
  unfold concat3
  rw [strcpy_of_fits ha]
  show (do let buf ← strcat ⟨a, ha⟩ b; let buf ← strcat buf c; pure buf.str) = _
  rw [strcat_of_fits hab]
  show (do let buf ← strcat ⟨a ++ b, hab⟩ c; pure buf.str) = _
  rw [strcat_of_fits habc]
  rfl

/-- A buffer sized for its parts and the terminator holds them. -/
@[simp] theorem concat2_exact (a b : CString) :
    concat2 (a.length + b.length + 1) a b = .ok (a ++ b) :=
  concat2_of_fits (Nat.lt_succ_self _)

@[simp] theorem concat3_exact (a b c : CString) :
    concat3 (a.length + b.length + c.length + 1) a b c = .ok (a ++ b ++ c) :=
  concat3_of_fits (Nat.lt_succ_self _)

end assembly

namespace Notification

/-- The summary line of a request. -/
def summary : Notification CString → CString
  | .notify s _ _ => s
  | .notify_server_message s _ _ => s
  | .notify_channel_message c _ _ => c
  | .notify_private_message _ _ => CString.ofString "PM:"
  | .notify_join c _ => c ++ CString.ofString " joined the channel."
  | .notify_leave c _ => c ++ CString.ofString " left the channel."
  | .notify_move c _ => CString.ofString "You left " ++ c ++ CString.ofString "."
  | .notify_poke p _ => p ++ CString.ofString " poked you!"
  | .notify_channel_edited e => e ++ CString.ofString " edited your channel."

/-- The body of a membership notification. -/
def moverText : Option CString → CString
  | none => CString.ofString ""
  | some m => CString.ofString "Was moved by " ++ m ++ CString.ofString "."

/-- The body of a request. -/
def body : Notification CString → CString
  | .notify _ b _ => b
  | .notify_server_message _ n m => n ++ CString.ofString ": " ++ m
  | .notify_channel_message _ n m => n ++ CString.ofString ": " ++ m
  | .notify_private_message n m => n ++ CString.ofString ": " ++ m
  | .notify_join _ m => moverText m
  | .notify_leave _ m => moverText m
  | .notify_move _ m => CString.ofString "You were moved by " ++ m ++ CString.ofString "!"
  | .notify_poke _ m => m
  | .notify_channel_edited _ => CString.ofString ""

/-- The urgency a request is made with. -/
def urgency {τ : Type} : Notification τ → Urgency
  | .notify _ _ u => u
  | .notify_server_message _ _ _ => .LOW
  | .notify_channel_message _ _ _ => .LOW
  | .notify_private_message _ _ => .CRITICAL
  | .notify_join _ _ => .NORMAL
  | .notify_leave _ _ => .NORMAL
  | .notify_move _ _ => .CRITICAL
  | .notify_poke _ _ => .CRITICAL
  | .notify_channel_edited _ => .LOW

end Notification

theorem notify_message_eq (summary : CString) (urgency : Urgency) (sender message : CString) :
    notify_message summary urgency sender message =
      .ok ⟨summary, sender ++ CString.ofString ": " ++ message, urgency⟩ := by
  simp only [notify_message, concat3_exact]
  rfl

theorem notify_membership_eq (suffix client : CString) (mover : Option CString) :
    notify_membership suffix client mover =
      .ok ⟨client ++ suffix, Notification.moverText mover, .NORMAL⟩ := by
  cases mover with
  | none =>
    simp only [notify_membership, concat2_exact]
    rfl
  | some m =>
    simp only [notify_membership, concat2_exact, concat3_exact]
    rfl

/-- Every request assembles its summary and its body without overflow. -/
theorem Notification.toCall_eq (n : Notification CString) :
    n.toCall = .ok ⟨n.summary, n.body, n.urgency⟩ := by
  cases n with
  | notify s b u => rfl
  | notify_server_message s n m => exact notify_message_eq s .LOW n m
  | notify_channel_message c n m => exact notify_message_eq c .LOW n m
  | notify_private_message n m => exact notify_message_eq _ .CRITICAL n m
  | notify_join c m => exact notify_membership_eq _ c m
  | notify_leave c m => exact notify_membership_eq _ c m
  | notify_move c m =>
    simp only [toCall, TeamspeakNotifications.notify_move, concat3_exact]
    rfl
  | notify_poke p m =>
    simp only [toCall, TeamspeakNotifications.notify_poke, concat2_exact]
    rfl
  | notify_channel_edited e =>
    simp only [toCall, TeamspeakNotifications.notify_channel_edited, concat2_exact]
    rfl

/-! ## Section 6: The command line -/

/-- The command line, as the format asks for it. -/
def notify_line (summary body : CString) : CString :=
  format notify_format [COMMAND_NOTIFY, summary, APP_NAME, body]

/-- `snprintf` can count the command line. -/
def Printable (summary body : CString) : Prop := (notify_line summary body).length ≤ INT_MAX

instance (summary body : CString) : Decidable (Printable summary body) :=
  inferInstanceAs (Decidable (_ ≤ _))

/-- The command line of a request. -/
def Notification.line (n : Notification CString) : CString := notify_line n.summary n.body

/-- The command line of the request can be counted. -/
def Notification.Printable (n : Notification CString) : Prop :=
  TeamspeakNotifications.Printable n.summary n.body

instance (n : Notification CString) : Decidable n.Printable :=
  inferInstanceAs (Decidable (TeamspeakNotifications.Printable _ _))

theorem notify_format_bytes : notify_format.bytes =
    [37, 115, 32, 34, 37, 115, 34, 32, 45, 97, 32, 34, 37, 115, 34, 32, 34, 37, 115, 34] := by
  decide

/-- The command line, spelt out. -/
theorem notify_line_bytes (summary body : CString) :
    (notify_line summary body).bytes =
      COMMAND_NOTIFY.bytes ++ lit " \"" ++ summary.bytes ++ lit "\" -a \"" ++
        APP_NAME.bytes ++ lit "\" \"" ++ body.bytes ++ lit "\"" := by
  have hlit₁ : lit " \"" = [32, 34] := by decide
  have hlit₂ : lit "\" -a \"" = [34, 32, 45, 97, 32, 34] := by decide
  have hlit₃ : lit "\" \"" = [34, 32, 34] := by decide
  have hlit₄ : lit "\"" = [34] := by decide
  unfold notify_line
  rw [format_bytes, notify_format_bytes, hlit₁, hlit₂, hlit₃, hlit₄]
  simp [formatBytes]

/-- The command line has 34 bytes of its own. -/
theorem length_notify_line (summary body : CString) :
    (notify_line summary body).length = summary.length + body.length + 34 := by
  have hlit : (lit " \"").length = 2 ∧ (lit "\" -a \"").length = 6 ∧
      (lit "\" \"").length = 3 ∧ (lit "\"").length = 1 := by decide
  have hcommand : COMMAND_NOTIFY.bytes.length = 11 := by decide
  have hname : APP_NAME.bytes.length = 11 := by decide
  obtain ⟨h₁, h₂, h₃, h₄⟩ := hlit
  unfold CString.length
  rw [notify_line_bytes]
  simp only [List.length_append, h₁, h₂, h₃, h₄, hcommand, hname]
  omega

theorem Notification.printable_iff (n : Notification CString) :
    n.Printable ↔ n.summary.length + n.body.length + 34 ≤ INT_MAX := by
  unfold Notification.Printable TeamspeakNotifications.Printable
  rw [length_notify_line]

/-- The command buffer has room for the complete command line: the 15 spare
    bytes cover the twelve fixed bytes of the format and the terminator. -/
theorem notify_line_fits (summary body : CString) :
    (notify_line summary body).length < notify_size summary body := by
  have hcommand : COMMAND_NOTIFY.length = 11 := by decide
  have hname : APP_NAME.length = 11 := by decide
  rw [length_notify_line]
  simp only [notify_size, hcommand, hname]
  omega

theorem notify_command_of_printable {summary body : CString} (h : Printable summary body)
    (left : CString) : notify_command left summary body = notify_line summary body :=
  snprintf_of_fits h (notify_line_fits summary body)

/-- What the command line has between the summary and the body. -/
def fieldSeparator : List UInt8 := lit "\" -a \"TeamSpeak 3\" \""

/-- The command line as two fields between double quotes. -/
theorem notify_line_fields (summary body : CString) :
    (notify_line summary body).bytes =
      lit "notify-send \"" ++ (summary.bytes ++ (fieldSeparator ++ body.bytes)) ++
        lit "\"" := by
  have h₁ : COMMAND_NOTIFY.bytes ++ lit " \"" = lit "notify-send \"" := by decide
  have h₂ : lit "\" -a \"" ++ APP_NAME.bytes ++ lit "\" \"" = fieldSeparator := by decide
  rw [notify_line_bytes, h₁, ← h₂]
  simp only [List.append_assoc]

end TeamspeakNotifications
