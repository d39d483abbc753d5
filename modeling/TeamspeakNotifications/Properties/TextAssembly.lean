import TeamspeakNotifications.Model.Desktop

/-! # Text assembly

    Every `notify_*` function copies its texts into buffers of variable length,
    whose sizes it sums up by hand, and `notify` prints the command line into
    one more. In the model a write past the end of a buffer has no result.

    * `notify_size_le`: how large the sizes get at most.
    * `Built`: nothing is written past an end, and there is room for the command
      line.
    * `Complete`: `system` gets the command line with all of its texts.
    * `assembled`: every request is built, whatever its strings are; but it is
      complete only if `snprintf` can count the command line, since its result
      is not checked.
-/

namespace TeamspeakNotifications

open Interaction CLib

namespace Notification

/-- The total length of the strings a request is made with. -/
def length (n : Notification CString) : Nat :=
  n.strings.foldr (fun s total => s.length + total) 0

theorem length_private_message (sender message : CString) :
    (notify_private_message sender message).length = sender.length + message.length := rfl

/-- The mover's name is enclosed in 14 bytes. -/
theorem moverText_length_le (m : Option CString) :
    (moverText m).length ≤ m.toList.foldr (fun s total => s.length + total) 0 + 14 := by
  have hempty : (CString.ofString "").length = 0 := by decide
  have hwas : (CString.ofString "Was moved by ").length = 13 := by decide
  have hdot : (CString.ofString ".").length = 1 := by decide
  cases m with
  | none =>
    simp only [moverText, hempty]
    omega
  | some m =>
    simp only [moverText, CString.length_append, hwas, hdot, Option.toList, List.foldr_cons,
      List.foldr_nil]
    omega

/-- A request's own words add at most 34 bytes to its strings; it is
    `notify_join` with a mover that adds most. -/
theorem summary_body_length_le (n : Notification CString) :
    n.summary.length + n.body.length ≤ n.length + 34 := by
  have hempty : (CString.ofString "").length = 0 := by decide
  have hcolon : (CString.ofString ": ").length = 2 := by decide
  have hdot : (CString.ofString ".").length = 1 := by decide
  unfold length
  cases n with
  | notify s b u =>
    simp only [summary, body, strings, List.foldr_cons, List.foldr_nil]
    omega
  | notify_server_message s n m =>
    simp only [summary, body, strings, List.foldr_cons, List.foldr_nil, CString.length_append,
      hcolon]
    omega
  | notify_channel_message c n m =>
    simp only [summary, body, strings, List.foldr_cons, List.foldr_nil, CString.length_append,
      hcolon]
    omega
  | notify_private_message n m =>
    have hPM : (CString.ofString "PM:").length = 3 := by decide
    simp only [summary, body, strings, List.foldr_cons, List.foldr_nil, CString.length_append,
      hcolon, hPM]
    omega
  | notify_join c m =>
    have hjoined : (CString.ofString " joined the channel.").length = 20 := by decide
    have hbody := moverText_length_le m
    simp only [summary, body, strings, List.foldr_cons, CString.length_append, hjoined]
    omega
  | notify_leave c m =>
    have hleft : (CString.ofString " left the channel.").length = 18 := by decide
    have hbody := moverText_length_le m
    simp only [summary, body, strings, List.foldr_cons, CString.length_append, hleft]
    omega
  | notify_move c m =>
    have hyou : (CString.ofString "You left ").length = 9 := by decide
    have hmoved : (CString.ofString "You were moved by ").length = 18 := by decide
    have hbang : (CString.ofString "!").length = 1 := by decide
    simp only [summary, body, strings, List.foldr_cons, List.foldr_nil,
      CString.length_append, hyou, hdot, hmoved, hbang]
    omega
  | notify_poke p m =>
    have hpoked : (CString.ofString " poked you!").length = 11 := by decide
    simp only [summary, body, strings, List.foldr_cons, List.foldr_nil,
      CString.length_append, hpoked]
    omega
  | notify_channel_edited e =>
    have hedited : (CString.ofString " edited your channel.").length = 21 := by decide
    simp only [summary, body, strings, List.foldr_cons, List.foldr_nil,
      CString.length_append, hedited, hempty]
    omega

/-- The largest buffer is that of the command line. -/
theorem notify_size_le (n : Notification CString) :
    notify_size n.summary n.body ≤ n.length + 71 := by
  have htexts := n.summary_body_length_le
  have hcommand : COMMAND_NOTIFY.length = 11 := by decide
  have hname : APP_NAME.length = 11 := by decide
  simp only [notify_size, hcommand, hname]
  omega

end Notification

/-- A request is put together without a write past the end of a buffer. -/
structure Built (n : Notification CString) : Prop where
  /-- The summary and the body are the concatenations of their parts. -/
  texts : n.toCall = .ok ⟨n.summary, n.body, n.urgency⟩
  /-- The command line and its terminator fit. -/
  fits : n.line.length < notify_size n.summary n.body
  /-- No size wraps in a `size_t`, as long as the strings leave room for the
      fixed words. -/
  sizes : n.length + 71 < UInt64.size → n.summary.length + 1 < UInt64.size ∧
    n.body.length + 1 < UInt64.size ∧ notify_size n.summary n.body < UInt64.size

/-- With the TeamSpeak window not focused, `system` gets the complete command
    line, closing quote included. -/
def Complete (n : Notification CString) : Prop :=
  ∀ {σ : Type} (d : Desktop σ) (s : σ) (u : Unspecified), focusedAt d s u.window ≠ 1 →
    ∃ command, commands ((n.perform u).run d s).trace = [command] ∧
      command.bytes = lit "notify-send \"" ++ n.summary.bytes ++
        lit "\" -a \"TeamSpeak 3\" \"" ++ n.body.bytes ++ lit "\""

namespace Notification

theorem built (n : Notification CString) : Built n where
  texts := n.toCall_eq
  fits := notify_line_fits n.summary n.body
  sizes := by
    intro hlength
    have htexts := n.summary_body_length_le
    have hsize := n.notify_size_le
    refine ⟨?_, ?_, ?_⟩
    · omega
    · omega
    · omega

/-- The command line of a request, in pieces. -/
theorem line_bytes (n : Notification CString) :
    n.line.bytes = lit "notify-send \"" ++ n.summary.bytes ++
      lit "\" -a \"TeamSpeak 3\" \"" ++ n.body.bytes ++ lit "\"" := by
  have hseparator : lit "\" -a \"TeamSpeak 3\" \"" = fieldSeparator := rfl
  unfold line
  rw [notify_line_fields, hseparator]
  simp only [List.append_assoc]

theorem complete_of_printable {n : Notification CString} (hprint : n.Printable) : Complete n := by
  intro σ d s u hfocus
  exact ⟨n.line, commands_perform_of_printable d s hprint hfocus, n.line_bytes⟩

/-- What is left in the command buffer by a failure of `snprintf` need not be the
    command line. -/
theorem printable_of_complete {n : Notification CString} (h : Complete n) : n.Printable := by
  by_contra hprint
  have hlong : INT_MAX < n.line.length := Nat.not_le.mp hprint
  have hfocus : focusedAt otherFocused () 0 ≠ 1 := by decide
  -- the first bytes of it, as many as can be counted
  obtain ⟨command, hcommand, hbytes⟩ := h otherFocused () ⟨0, n.line.take INT_MAX⟩ hfocus
  have hleft : notify_command (n.line.take INT_MAX) n.summary n.body = n.line.take INT_MAX :=
    snprintf_of_overflow hlong
  rw [commands_perform, if_neg hfocus, hleft] at hcommand
  obtain rfl : n.line.take INT_MAX = command := List.singleton_inj.mp hcommand
  rw [← line_bytes] at hbytes
  have hlength : min INT_MAX n.line.bytes.length = n.line.bytes.length :=
    List.length_take.symm.trans (congrArg List.length hbytes)
  unfold CString.length at hlong
  omega

end Notification

/-- **Text assembly.** Every request is built, whatever its strings are. Its command
    line is complete, whatever a failure of `snprintf` leaves, if and only if
    `snprintf` can count it. -/
theorem assembled (n : Notification CString) : Built n ∧ (Complete n ↔ n.Printable) :=
  ⟨n.built, Notification.printable_of_complete, Notification.complete_of_printable⟩

/-- A private message that cannot be counted itself. -/
theorem not_complete_of_long (sender : CString) {message : CString}
    (hlong : INT_MAX < message.length) :
    ¬ Complete (.notify_private_message sender message) := by
  intro h
  have hcount := (Notification.printable_iff _).mp (Notification.printable_of_complete h)
  have hbody : (Notification.notify_private_message sender message).body =
      sender ++ CString.ofString ": " ++ message := rfl
  rw [hbody, CString.length_append] at hcount
  omega

/-- A message of 2147483648 times the letter "a". -/
def endless : CString where
  bytes := List.replicate (INT_MAX + 1) 97
  noNul := fun h0 => absurd (List.eq_of_mem_replicate h0) (by decide)

theorem length_endless : endless.length = INT_MAX + 1 := List.length_replicate

/-- Sent by Bob, it need not reach the shell in full. -/
theorem not_assembled_endless :
    ¬ ∀ n : Notification CString, n.length + 71 < UInt64.size → Built n ∧ Complete n := by
  intro h
  have hBob : (CString.ofString "Bob").length = 3 := by decide
  have hsize : (Notification.notify_private_message (CString.ofString "Bob")
      endless).length + 71 < UInt64.size := by
    rw [Notification.length_private_message, hBob, length_endless]
    decide
  have hlong : INT_MAX < endless.length := by
    rw [length_endless]
    exact Nat.lt_succ_self _
  exact not_complete_of_long _ hlong (h _ hsize).2

end TeamspeakNotifications
