import TeamspeakNotifications.Framework.Shell
import TeamspeakNotifications.Model.Desktop

/-! # The command line and the shell

    `notify` splices the summary and the body between double quotes, as they
    are. `system` has the shell read the line. The two texts arrive as the
    arguments they were meant to be if and only if both are literal in the
    sense of `Shell.Literal`: nothing in them means anything between double
    quotes in the dialect of that shell. The line has to be one that `snprintf`
    can count.

    For the "only if" the tokenizer's balance is used: the line has exactly the
    six double quotes and the four blanks it needs, so there is no byte left to
    pay for a quote or a backslash of the texts.
-/

namespace TeamspeakNotifications

open Interaction CLib

/-- The argument vector `notify` means to pass. -/
def intendedArguments (summary body : CString) : List Shell.Word :=
  [COMMAND_NOTIFY.bytes, summary.bytes, lit "-a", APP_NAME.bytes, body.bytes]

/-- What follows the summary's closing quote, up to the body. -/
def afterSummary : List UInt8 := lit " -a \"TeamSpeak 3\" \""

theorem notify_line_quoted (summary body : CString) :
    (notify_line summary body).bytes =
      lit "notify-send \"" ++ (summary.bytes ++ Shell.quote ::
        (afterSummary ++ (body.bytes ++ Shell.quote :: []))) := by
  have hseparator : fieldSeparator = Shell.quote :: afterSummary := by decide
  have hquote : lit "\"" = Shell.quote :: [] := by decide
  rw [notify_line_fields, hseparator, hquote]
  simp only [List.append_assoc, List.cons_append]

section reading

variable (sh : Shell.Dialect)

theorem steps_command : Shell.steps sh .between (lit "notify-send \"") =
    .ok ([.word COMMAND_NOTIFY.bytes], .dquoted []) := by
  rfl

theorem steps_afterSummary (w : Shell.Word) : Shell.steps sh (.word w) afterSummary =
    .ok ([.word w, .word (lit "-a"), .word APP_NAME.bytes], .dquoted []) := by
  rfl

/-- Literal texts are read as intended. -/
theorem readCommand_of_literal (summary body : CString)
    (hsummary : Shell.Literal sh summary.bytes) (hbody : Shell.Literal sh body.bytes) :
    Shell.readCommand sh (notify_line summary body).bytes =
      some (intendedArguments summary body) := by
  have hlex : Shell.lex sh .between (notify_line summary body).bytes =
      .ok ((intendedArguments summary body).map Shell.Token.word) := by
    rw [notify_line_quoted, Shell.lex_append (steps_command sh),
      Shell.lex_literal _ _ _ hsummary, Shell.lex_append (steps_afterSummary sh _),
      Shell.lex_literal _ _ _ hbody]
    rfl
  unfold Shell.readCommand
  rw [hlex]
  exact Shell.simpleCommand_words (by decide)

/-- Texts that are read as intended are literal. -/
theorem literal_of_readCommand (summary body : CString)
    (h : Shell.readCommand sh (notify_line summary body).bytes =
      some (intendedArguments summary body)) :
    Shell.Literal sh summary.bytes ∧ Shell.Literal sh body.bytes := by
  unfold Shell.readCommand at h
  rw [notify_line_quoted, Shell.lex_append (steps_command sh)] at h
  cases hfirst : Shell.lex sh (.dquoted []) (summary.bytes ++ Shell.quote ::
      (afterSummary ++ (body.bytes ++ Shell.quote :: []))) with
  | error f => rw [hfirst] at h; cases h
  | ok ts =>
    rw [hfirst] at h
    have hwords : Shell.words ts = [summary.bytes, lit "-a", APP_NAME.bytes, body.bytes] := by
      have := Shell.words_of_simpleCommand h
      rw [Shell.words_append] at this
      exact (List.cons.inj this).2
    -- the fixed part of the line has just the blanks that the words need
    have hfixed : Shell.bulk afterSummary =
        Shell.bulk (lit "-a") + Shell.bulk APP_NAME.bytes + 3 := by decide
    have hnil : Shell.bulk (Shell.quote :: []) = 0 := by decide
    have hsummary : Shell.Literal sh summary.bytes := by
      apply Shell.literal_of_lossless [] _ _ ts hfirst
      · simp only [hwords, Shell.bulk_append, Shell.cost_cons, Shell.cost_nil,
          Shell.bulk_nil, hnil]
        omega
      · simp only [hwords, Shell.quotesIn_cons, Shell.quotesIn_nil, Shell.quotes_nil]
        omega
    refine ⟨hsummary, ?_⟩
    -- the summary is read as it is; what remains is the body
    rw [Shell.lex_literal _ _ _ hsummary, Shell.lex_append (steps_afterSummary sh _)] at hfirst
    cases hsecond : Shell.lex sh (.dquoted []) (body.bytes ++ Shell.quote :: []) with
    | error f => rw [hsecond] at hfirst; cases hfirst
    | ok us =>
      rw [hsecond] at hfirst
      cases hfirst
      have hbody : Shell.words us = [body.bytes] := by
        rw [Shell.words_append] at hwords
        have hfirst : [summary.bytes, lit "-a", APP_NAME.bytes] ++ Shell.words us =
            [summary.bytes, lit "-a", APP_NAME.bytes] ++ [body.bytes] := hwords
        exact List.append_cancel_left hfirst
      apply Shell.literal_of_lossless [] _ _ us hsecond
      · simp only [hbody, Shell.cost_cons, Shell.cost_nil, Shell.bulk_nil]
        omega
      · simp only [hbody, Shell.quotesIn_cons, Shell.quotesIn_nil, Shell.quotes_nil]
        omega

end reading

section roundTrip

variable {σ : Type} (sh : Shell.Dialect) (d : Desktop σ) (s : σ) (u : Unspecified)

/-- The round trip of one call of `notify`: exactly one command line is handed
    to `system`, and the shell reads it as the intended arguments. -/
def RoundTrip (summary body : CString) (urgency : Urgency) : Prop :=
  ∃ command, commands ((notify u summary body urgency).run d s).trace = [command] ∧
    Shell.readCommand sh command.bytes = some (intendedArguments summary body)

/-- With the TeamSpeak window not focused, the round trip is that of the command
    line. -/
theorem roundTrip_iff_readCommand {summary body : CString} (urgency : Urgency)
    (hprint : Printable summary body) (hfocus : focusedAt d s u.window ≠ 1) :
    RoundTrip sh d s u summary body urgency ↔
      Shell.readCommand sh (notify_line summary body).bytes =
        some (intendedArguments summary body) := by
  unfold RoundTrip
  rw [commands_notify, if_neg hfocus, notify_command_of_printable hprint]
  constructor
  · rintro ⟨command, hcommand, hread⟩
    cases hcommand
    exact hread
  · intro hread
    exact ⟨_, rfl, hread⟩

/-- **Shell round trip.** With the TeamSpeak window not focused, the summary
    and the body reach `notify-send` unharmed if and only if both are literal
    between double quotes. -/
theorem roundTrip_iff_literal (summary body : CString) (urgency : Urgency)
    (hprint : Printable summary body) (hfocus : focusedAt d s u.window ≠ 1) :
    RoundTrip sh d s u summary body urgency ↔
      Shell.Literal sh summary.bytes ∧ Shell.Literal sh body.bytes := by
  rw [roundTrip_iff_readCommand sh d s u urgency hprint hfocus]
  constructor
  · intro hread
    exact literal_of_readCommand sh summary body hread
  · intro h
    obtain ⟨hsummary, hbody⟩ := h
    exact readCommand_of_literal sh summary body hsummary hbody

end roundTrip

theorem roundTrip_iff_literal_greeting :
    RoundTrip .bash otherFocused () default (CString.ofString "PM:")
        (CString.ofString "Bob: hi") .CRITICAL ↔
      Shell.Literal .bash (CString.ofString "PM:").bytes ∧
        Shell.Literal .bash (CString.ofString "Bob: hi").bytes :=
  roundTrip_iff_literal .bash otherFocused () default _ _ _ (by decide) (by decide)

/-- A private message `$(reboot)` does not survive: every shell would run it. -/
theorem not_roundTrip_substitution :
    ¬ ∃ sh : Shell.Dialect, ∀ (summary body : CString) (urgency : Urgency),
      focusedAt otherFocused () 0 ≠ 1 →
        RoundTrip sh otherFocused () default summary body urgency := by
  rintro ⟨sh, h⟩
  have htrip := h (CString.ofString "PM:") (CString.ofString "Bob: $(reboot)") .CRITICAL
    (by decide)
  rw [roundTrip_iff_readCommand sh otherFocused () default .CRITICAL (by decide) (by decide)]
    at htrip
  have hliteral := literal_of_readCommand sh _ _ htrip
  exact absurd hliteral.2.posix (by decide)

end TeamspeakNotifications
