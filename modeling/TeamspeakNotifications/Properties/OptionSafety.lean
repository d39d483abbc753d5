import TeamspeakNotifications.Framework.Options
import TeamspeakNotifications.Model.World
import TeamspeakNotifications.Properties.ShellRoundTrip

/-! # Remote text as options of `notify-send`

    The summary and the body are passed as words of their own, without a "--" in
    front of them. Text of others stands at the beginning of many of them: names,
    and the whole of a poke message. Whatever the shell makes of the command
    line, `notify-send` takes a word that begins with a dash for an option.

    * `NotifySend`: how the program reads its arguments. Which options it has
      besides `-a`, and what they mean, is left open.
    * `OptionSafe`: the arguments are read as one option and two positionals.
    * `Notification.BeginsDashed`: a text that a word begins with begins with a
      dash.
    * `optionSafe_iff`: a request is read as it was meant exactly if there is no
      such text in it.
-/

namespace TeamspeakNotifications

open Interaction CLib

/-! ## Section 1: How arguments are read -/

/-- The byte '-'. -/
def dash : UInt8 := 45

/-- The text begins with a dash. -/
def Dashed (w : Shell.Word) : Prop := w.head? = some dash

/-- The word is an option: it begins with a dash. Programs differ on the dash by
    itself, which is an option only if `lone` says so. -/
def OptionWord (lone : Bool) (w : Shell.Word) : Prop := Dashed w ∧ (w = [dash] → lone = true)

instance (w : Shell.Word) : Decidable (Dashed w) := inferInstanceAs (Decidable (_ = _))

instance (lone : Bool) (w : Shell.Word) : Decidable (OptionWord lone w) :=
  inferInstanceAs (Decidable (_ ∧ _))

/-- How `notify-send` reads its arguments: `-a` takes a value, `--` ends the
    options. -/
structure NotifySend (ν : Type) where
  table : Options.Table Shell.Word ν
  appName : ν
  lone : Bool
  option_iff : ∀ w, table w ≠ none ↔ OptionWord lone w
  app_reads : table (lit "-a") = some (.wanting [] appName [])
  stop_reads : table (lit "--") = some .stop

/-- The arguments of the command are read as the option for the application's
    name and two positionals, the summary and the body. -/
def OptionSafe {ν : Type} (P : NotifySend ν) (n : Notification CString) : Prop :=
  ∃ c, n.toCall = .ok c ∧
    Options.parse P.table (intendedArguments c.summary c.body).tail =
      some ⟨[(P.appName, some APP_NAME.bytes)], [c.summary.bytes, c.body.bytes]⟩

/-- A text that the summary or the body begins with begins with a dash. A text
    that is all of the summary or the body may be no more than a dash. -/
def Notification.BeginsDashed (lone : Bool) : Notification CString → Prop
  | .notify s b _ => OptionWord lone s.bytes ∨ OptionWord lone b.bytes
  | .notify_server_message s n _ => OptionWord lone s.bytes ∨ Dashed n.bytes
  | .notify_channel_message c n _ => OptionWord lone c.bytes ∨ Dashed n.bytes
  | .notify_private_message n _ => Dashed n.bytes
  | .notify_join c _ => Dashed c.bytes
  | .notify_leave c _ => Dashed c.bytes
  | .notify_move _ _ => False
  | .notify_poke p m => Dashed p.bytes ∨ OptionWord lone m.bytes
  | .notify_channel_edited e => Dashed e.bytes

/-! ## Section 2: The words of a request -/

section words

variable {lone : Bool}

theorem not_optionWord_of_head {w : Shell.Word} (hw : ¬ Dashed w) : ¬ OptionWord lone w := by
  intro h
  exact hw h.1

/-- A word begins the way its first part does. -/
theorem dashed_append_iff {a : Shell.Word} (hne : a ≠ []) (b : Shell.Word) :
    Dashed (a ++ b) ↔ Dashed a := by
  unfold Dashed
  rw [List.head?_append_of_ne_nil a hne]

/-- A text with something after it is an option if it begins with a dash. -/
theorem optionWord_append_iff (a : Shell.Word) {suffix : Shell.Word} (hne : suffix ≠ [])
    (hsuffix : ¬ Dashed suffix) : OptionWord lone (a ++ suffix) ↔ Dashed a := by
  unfold OptionWord
  cases a with
  | nil => exact iff_of_false (fun h => hsuffix h.1) (by simp [Dashed])
  | cons c cs =>
    have hlong : c :: cs ++ suffix ≠ [dash] := by
      intro h
      have hnil := (List.cons.inj h).2
      exact hne (List.append_eq_nil_iff.mp hnil).2
    rw [dashed_append_iff (List.cons_ne_nil c cs)]
    constructor
    · intro h
      exact h.1
    · intro h
      exact ⟨h, fun hdash => absurd hdash hlong⟩

/-- The line `<sender>: <message>` begins with the sender's name. -/
theorem optionWord_message_iff (sender message : CString) :
    OptionWord lone (sender ++ CString.ofString ": " ++ message).bytes ↔
      Dashed sender.bytes := by
  have hne : (CString.ofString ": ").bytes ≠ [] := by decide
  rw [CString.bytes_append, CString.bytes_append, List.append_assoc]
  apply optionWord_append_iff
  · simp [hne]
  · rw [dashed_append_iff hne]
    decide

/-- A text between two fixed ones does not matter. -/
theorem not_optionWord_enclosed {p : CString} (hne : p.bytes ≠ []) (hp : ¬ Dashed p.bytes)
    (x q : CString) : ¬ OptionWord lone (p ++ x ++ q).bytes := by
  apply not_optionWord_of_head
  rw [CString.bytes_append, CString.bytes_append, List.append_assoc, dashed_append_iff hne]
  exact hp

theorem not_optionWord_moverText (m : Option CString) :
    ¬ OptionWord lone (Notification.moverText m).bytes := by
  cases m with
  | none => exact not_optionWord_of_head (by decide)
  | some m => exact not_optionWord_enclosed (by decide) (by decide) m _

/-- What the summary and the body begin with. -/
theorem optionWord_iff_beginsDashed (n : Notification CString) :
    OptionWord lone n.summary.bytes ∨ OptionWord lone n.body.bytes ↔ n.BeginsDashed lone := by
  have hempty : ¬ OptionWord lone (CString.ofString "").bytes :=
    not_optionWord_of_head (by decide)
  cases n with
  | notify s b u => exact Iff.rfl
  | notify_server_message s n m =>
    exact or_congr Iff.rfl (optionWord_message_iff n m)
  | notify_channel_message c n m =>
    exact or_congr Iff.rfl (optionWord_message_iff n m)
  | notify_private_message n m =>
    have hsummary : ¬ OptionWord lone (CString.ofString "PM:").bytes :=
      not_optionWord_of_head (by decide)
    exact (or_iff_right hsummary).trans (optionWord_message_iff n m)
  | notify_join c m =>
    exact (or_iff_left (not_optionWord_moverText m)).trans
      (optionWord_append_iff c.bytes (by decide) (by decide))
  | notify_leave c m =>
    exact (or_iff_left (not_optionWord_moverText m)).trans
      (optionWord_append_iff c.bytes (by decide) (by decide))
  | notify_move c m =>
    have hsummary : ¬ OptionWord lone (Notification.notify_move c m).summary.bytes :=
      not_optionWord_enclosed (by decide) (by decide) c _
    have hbody : ¬ OptionWord lone (Notification.notify_move c m).body.bytes :=
      not_optionWord_enclosed (by decide) (by decide) m _
    exact iff_of_false (not_or.mpr ⟨hsummary, hbody⟩) id
  | notify_poke p m =>
    exact or_congr (optionWord_append_iff p.bytes (by decide) (by decide)) Iff.rfl
  | notify_channel_edited e =>
    exact (or_iff_left hempty).trans (optionWord_append_iff e.bytes (by decide) (by decide))

end words

/-! ## Section 3: What `notify-send` makes of a request -/

section parse

variable {ν : Type} (P : NotifySend ν)

theorem NotifySend.positional_iff (w : Shell.Word) :
    P.table w = none ↔ ¬ OptionWord P.lone w := by
  rw [← P.option_iff, not_not]

/-- The two words are positionals, or the request is misread. -/
theorem optionSafe_iff_positionals (n : Notification CString) :
    OptionSafe P n ↔ P.table n.summary.bytes = none ∧ P.table n.body.bytes = none := by
  have hname : P.table APP_NAME.bytes = none :=
    (P.positional_iff _).mpr (not_optionWord_of_head (by decide))
  unfold OptionSafe
  rw [n.toCall_eq]
  constructor
  · rintro ⟨c, hbuilt, hparse⟩
    cases hbuilt
    exact (Options.parse_around_iff P.app_reads hname _ _).mp hparse
  · intro h
    exact ⟨_, rfl, (Options.parse_around_iff P.app_reads hname _ _).mpr h⟩

/-- **Option safety.** The arguments of a request are read as the application's
    name, the summary and the body if and only if no text that one of these
    begins with begins with a dash. -/
theorem optionSafe_iff (n : Notification CString) :
    OptionSafe P n ↔ ¬ n.BeginsDashed P.lone := by
  rw [optionSafe_iff_positionals, ← optionWord_iff_beginsDashed, not_or, P.positional_iff,
    P.positional_iff]

end parse

/-- A program with no other option than `-a`. -/
def onlyAppName : NotifySend Unit where
  table w :=
    if w = lit "-a" then some (.wanting [] () [])
    else if w = lit "--" then some .stop
    else if OptionWord false w then some .unknown
    else none
  appName := ()
  lone := false
  option_iff := by
    intro w
    have happ : OptionWord false (lit "-a") := by decide
    have hstop : OptionWord false (lit "--") := by decide
    split_ifs with ha hs hw
    · simp [ha, happ]
    · simp [hs, hstop]
    · simp [hw]
    · simp [hw]
  app_reads := rfl
  stop_reads := rfl

/-- Client 2 pokes with the message "-x", and the poke is lost to an option that
    `notify-send` does not know. -/
theorem not_optionSafe_poke :
    ¬ ∀ c : Callback, ∀ n ∈ requests (Activation.serve (answering fun _ => lobby).handler
      ⟨c, default⟩ ()).trace, OptionSafe onlyAppName (n.map Str.text) := by
  intro h
  let poke : Notification Str :=
    .notify_poke (.arg (CString.ofString "Bob")) (.arg (CString.ofString "-x"))
  have hsafe := h (.onClientPokeEvent 0 2 (CString.ofString "Bob") (CString.ofString "-x") 0)
    poke (List.mem_singleton.mpr rfl)
  have hbody := ((optionSafe_iff_positionals onlyAppName _).mp hsafe).2
  exact (onlyAppName.positional_iff _).mp hbody (by decide)

end TeamspeakNotifications
