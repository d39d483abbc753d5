import TeamspeakNotifications.Framework.Words
import TeamspeakNotifications.Model.Desktop

/-! # Urgency and the command line

    `notify` takes the urgency of a notification and does not use it. Two
    requests are told apart by their texts alone, and the quoting lets texts be
    divided between summary and body in more than one way.

    * `Coincide`: the texts of two requests that make the same command line;
      `notify_line_eq_iff`, that these are all.
    * `separated_iff`: two requests of different urgency make different command
      lines exactly when their texts do not coincide. `snprintf` has to be able
      to count the lines.
-/

namespace TeamspeakNotifications

open Interaction CLib Words

/-! ## Section 1: Equal command lines -/

/-- A double quote is all that the separator begins and ends with. -/
theorem border_fieldSeparator {p q r : List UInt8} (h : Border fieldSeparator p q r) :
    (p = [] ∧ r = []) ∨ (p = fieldSeparator.dropLast ∧ r = fieldSeparator.tail) ∨
      (p = fieldSeparator ∧ r = fieldSeparator) := by
  obtain ⟨hp, hq, hq', hr⟩ := h.eq_take_drop
  have hlength : p.length ≤ fieldSeparator.length := by
    rw [h.suffix, List.length_append]
    omega
  have hshort : p.length < 21 := Nat.lt_of_le_of_lt hlength (by decide)
  -- the separator is fixed, so its borders can be looked up by length
  have hall : ∀ k < 21,
      fieldSeparator.drop k = fieldSeparator.take (fieldSeparator.length - k) →
        k = 0 ∨ k = fieldSeparator.length - 1 ∨ k = fieldSeparator.length := by decide
  rcases hall p.length hshort (hq.symm.trans hq') with hk | hk | hk
  · rw [hk] at hp hr
    exact Or.inl ⟨hp, hr⟩
  · rw [hk] at hp hr
    exact Or.inr (Or.inl ⟨hp, hr⟩)
  · rw [hk] at hp hr
    rw [Nat.sub_self] at hr
    exact Or.inr (Or.inr ⟨hp.trans List.take_length, hr⟩)

/-- The summary `s'` runs over the end of `s` into the body `b`: the separator
    occurs in both as text, or its copies share a quote. -/
def RunsOver (s b s' b' : List UInt8) : Prop :=
  (∃ t, s' = s ++ (fieldSeparator ++ t) ∧ b = t ++ (fieldSeparator ++ b')) ∨
    (s' = s ++ fieldSeparator.dropLast ∧ b = fieldSeparator.tail ++ b')

theorem shifted_fieldSeparator_iff {s b s' b' : List UInt8} :
    Shifted fieldSeparator s b s' b' ↔ (s' = s ∧ b = b') ∨ RunsOver s b s' b' := by
  rw [shifted_iff]
  unfold RunsOver
  have htail : Border fieldSeparator fieldSeparator.dropLast [34] fieldSeparator.tail :=
    ⟨by decide, by decide⟩
  constructor
  · intro h
    rcases h with h | ⟨p, q, r, hborder, hs, hb⟩
    · exact Or.inr (Or.inl h)
    · rcases border_fieldSeparator hborder with ⟨rfl, rfl⟩ | ⟨rfl, rfl⟩ | ⟨rfl, rfl⟩
      · exact Or.inl ⟨by simpa using hs, hb⟩
      · exact Or.inr (Or.inr ⟨hs, hb⟩)
      · exact Or.inr (Or.inl ⟨[], by simpa using hs, hb⟩)
  · intro h
    rcases h with ⟨rfl, rfl⟩ | h | ⟨hs, hb⟩
    · exact Or.inr ⟨[], fieldSeparator, [], ⟨rfl, (List.append_nil _).symm⟩, by simp, rfl⟩
    · exact Or.inl h
    · exact Or.inr ⟨_, _, _, htail, hs, hb⟩

/-- When two pairs of texts make the same command line. -/
theorem notify_line_eq_iff (s b s' b' : CString) :
    notify_line s b = notify_line s' b' ↔
      (s = s' ∧ b = b') ∨ RunsOver s.bytes b.bytes s'.bytes b'.bytes ∨
        RunsOver s'.bytes b'.bytes s.bytes b.bytes := by
  rw [CString.ext_iff, notify_line_fields, notify_line_fields,
    List.append_cancel_right_eq, List.append_cancel_left_eq, append_middle_eq_iff,
    shifted_fieldSeparator_iff, shifted_fieldSeparator_iff, CString.ext_iff, CString.ext_iff]
  constructor
  · intro h
    rcases h with (⟨hs, hb⟩ | h) | (⟨hs, hb⟩ | h)
    · exact Or.inl ⟨hs.symm, hb⟩
    · exact Or.inr (Or.inl h)
    · exact Or.inl ⟨hs, hb.symm⟩
    · exact Or.inr (Or.inr h)
  · intro h
    rcases h with ⟨hs, hb⟩ | h | h
    · exact Or.inl (Or.inl ⟨hs.symm, hb⟩)
    · exact Or.inl (Or.inr h)
    · exact Or.inr (Or.inr h)

/-! ## Section 2: Requests -/

/-- The texts of two requests coincide: they are the same, or one summary runs
    over into the other's body. -/
def Coincide (n n' : Notification CString) : Prop :=
  (n.summary = n'.summary ∧ n.body = n'.body) ∨
    RunsOver n.summary.bytes n.body.bytes n'.summary.bytes n'.body.bytes ∨
    RunsOver n'.summary.bytes n'.body.bytes n.summary.bytes n.body.bytes

theorem line_eq_iff_coincide (n n' : Notification CString) :
    n.line = n'.line ↔ Coincide n n' :=
  notify_line_eq_iff n.summary n.body n'.summary n'.body

section requests

variable {σ : Type} (d : Desktop σ) (s s' : σ) (u u' : Unspecified)

/-- If the urgencies of two requests differ, no command line that one of them
    hands to `system` is one that the other does. -/
def Separated (n n' : Notification CString) : Prop :=
  n.urgency ≠ n'.urgency →
    ∀ command ∈ commands ((n.perform u).run d s).trace,
      command ∉ commands ((n'.perform u').run d s').trace

/-- **Urgency.** With the TeamSpeak window not focused, two requests are
    separated if and only if their urgencies agree or their texts do not
    coincide. -/
theorem separated_iff (hfocus : focusedAt d s u.window ≠ 1)
    (hfocus' : focusedAt d s' u'.window ≠ 1) (n n' : Notification CString)
    (hprint : n.Printable) (hprint' : n'.Printable) :
    Separated d s s' u u' n n' ↔ n.urgency = n'.urgency ∨ ¬ Coincide n n' := by
  unfold Separated
  rw [commands_perform_of_printable d s hprint hfocus,
    commands_perform_of_printable d s' hprint' hfocus', ← line_eq_iff_coincide]
  simp only [List.mem_singleton, forall_eq]
  by_cases hurgency : n.urgency = n'.urgency
  · simp [hurgency]
  · simp [hurgency]

end requests

/-- Bob says hi in a channel. -/
def channelGreeting (channel : String) : Notification CString :=
  .notify_channel_message (CString.ofString channel) (CString.ofString "Bob")
    (CString.ofString "hi")

/-- Bob says hi in private. -/
def privateGreeting : Notification CString :=
  .notify_private_message (CString.ofString "Bob") (CString.ofString "hi")

theorem separated_iff_lobby :
    Separated otherFocused () () default default (channelGreeting "Lobby") privateGreeting ↔
      (channelGreeting "Lobby").urgency = privateGreeting.urgency ∨
        ¬ Coincide (channelGreeting "Lobby") privateGreeting :=
  separated_iff otherFocused () () default default (by decide) (by decide) _ _ (by decide)
    (by decide)

/-- In a channel called "PM:" a message looks like a private one. -/
theorem not_separated_channel_PM :
    ¬ ∀ n n' : Notification CString, Separated otherFocused () () default default n n' := by
  intro h
  have hnot := h (channelGreeting "PM:") privateGreeting (by decide)
  rw [commands_perform_of_printable _ _ (by decide) (by decide),
    commands_perform_of_printable _ _ (by decide) (by decide)] at hnot
  exact hnot _ (List.mem_singleton.mpr rfl) (List.mem_singleton.mpr rfl)

end TeamspeakNotifications
