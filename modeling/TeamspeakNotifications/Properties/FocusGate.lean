import TeamspeakNotifications.Model.Desktop

/-! # The focus gate

    `focused` asks libxdo for a context, for the focused window and for the
    process behind it. Any of the three questions may fail, and none of the
    outcomes is looked at.

    * `contextAnswer`, `windowAnswer`, `processAnswer`: the outcomes.
    * `FocusGate`: a notification is held back exactly if the TeamSpeak window
      is known to have the focus; and libxdo is used properly on the way.
    * `focusGate_iff`: so it is exactly when there is a context and the focused
      window is found, or none that could be left in the local would do.
-/

namespace TeamspeakNotifications

open Interaction CLib

section outcomes

variable {σ : Type} (d : Desktop σ) (s : σ)

/-! ## Section 1: Outcomes of the questions -/

/-- The own process ID, and the desktop's state after the question. -/
def processID : Int × σ := d .getpid s

/-- The outcome of `xdo_new`, and the state after it. -/
def contextAnswer : Option Nat × σ := d .xdo_new (processID d s).2

/-- The outcome of `xdo_get_focused_window`, and the state after it. -/
def windowAnswer : Option Window × σ :=
  d (.xdo_get_focused_window (contextAnswer d s).1) (contextAnswer d s).2

/-- The process ID that `xdo_get_pid_window` finds for a window. -/
def processAnswer (window : Window) : Int :=
  (d (.xdo_get_pid_window (contextAnswer d s).1 window) (windowAnswer d s).2).1

/-- The TeamSpeak window is known to have the focus. -/
def KnownFocused : Prop :=
  (contextAnswer d s).1 ≠ none ∧
    ∃ window, (windowAnswer d s).1 = some window ∧
      processAnswer d s window = (processID d s).1

/-- There is a context and the focused window is found; or it is not found, and
    no window has the own process behind it. -/
def Answered : Prop :=
  (contextAnswer d s).1 ≠ none ∧
    ((windowAnswer d s).1 ≠ none ∨ ∀ window, processAnswer d s window ≠ (processID d s).1)

/-- No function of libxdo is called with a `NULL` context. -/
def HasContext : DesktopCall → Prop
  | .xdo_get_focused_window xdo => xdo ≠ none
  | .xdo_get_pid_window xdo _ => xdo ≠ none
  | _ => True

/-! ## Section 2: One notification -/

/-- The gate as it should be, whatever the local `window` holds. -/
structure FocusGate (n : Notification CString) : Prop where
  suppressed_iff : ∀ u, commands ((n.perform u).run d s).trace = [] ↔ KnownFocused d s
  issued : ∀ u, ¬ KnownFocused d s →
    commands ((n.perform u).run d s).trace = [notify_command u.command n.summary n.body]
  context : ∀ u, ∀ e ∈ ((n.perform u).run d s).trace, HasContext e.call
  same : ∀ window window' left, commands ((n.perform ⟨window, left⟩).run d s).trace =
    commands ((n.perform ⟨window', left⟩).run d s).trace

/-- What `focused` compares: the process behind the window that was found, or
    behind the contents of the local if none was. -/
theorem focusedAt_eq_one_iff (window : Window) :
    focusedAt d s window = 1 ↔
      processAnswer d s ((windowAnswer d s).1.getD window) = (processID d s).1 := by
  show (if processAnswer d s ((windowAnswer d s).1.getD window) = (processID d s).1 then (1 : Int)
    else 0) = 1 ↔ _
  by_cases hown : processAnswer d s ((windowAnswer d s).1.getD window) = (processID d s).1
  · simp [hown]
  · simp [hown]

theorem suppressed_iff_focusedAt (u : Unspecified) (n : Notification CString) :
    commands ((n.perform u).run d s).trace = [] ↔ focusedAt d s u.window = 1 := by
  rw [commands_perform]
  by_cases hfocus : focusedAt d s u.window = 1
  · simp [hfocus]
  · simp [hfocus]

/-- What `notify` calls after the focus check is not libxdo's. -/
theorem hasContext_of_shows {c : DesktopCall} (hc : Shows c) : HasContext c := by
  cases c with
  | printf | system => trivial
  | getpid | xdo_new | xdo_free | xdo_get_focused_window | xdo_get_pid_window => exact hc.elim

/-- The context goes to both questions about windows. -/
theorem hasContext_perform (u : Unspecified) (n : Notification CString) :
    (∀ e ∈ ((n.perform u).run d s).trace, HasContext e.call) ↔
      (contextAnswer d s).1 ≠ none := by
  rw [Notification.perform_eq]
  unfold notify
  rw [Prog.run_bind]
  have hfocused : ((focused u.window).run d s).trace =
      [⟨.getpid, (processID d s).1⟩, ⟨.xdo_new, (contextAnswer d s).1⟩,
        ⟨.xdo_get_focused_window (contextAnswer d s).1, (windowAnswer d s).1⟩,
        ⟨.xdo_get_pid_window (contextAnswer d s).1 ((windowAnswer d s).1.getD u.window),
          processAnswer d s ((windowAnswer d s).1.getD u.window)⟩] := rfl
  rw [hfocused]
  constructor
  · intro h
    exact h ⟨.xdo_get_focused_window (contextAnswer d s).1, (windowAnswer d s).1⟩ (by simp)
  · intro hcontext e he
    rcases List.mem_append.mp he with he | he
    · simp only [List.mem_cons, List.not_mem_nil, or_false] at he
      rcases he with rfl | rfl | rfl | rfl
      · trivial
      · trivial
      · exact hcontext
      · exact hcontext
    · exact hasContext_of_shows ((shows_notify _ _ _ _).run_trace d _ e he)

/-- With the questions answered, `focused` knows whether the window has the
    focus. -/
theorem focusedAt_iff_knownFocused (h : Answered d s) (window : Window) :
    focusedAt d s window = 1 ↔ KnownFocused d s := by
  obtain ⟨hcontext, hwindow⟩ := h
  rw [focusedAt_eq_one_iff]
  unfold KnownFocused
  cases hfound : (windowAnswer d s).1 with
  | some found => simp [hcontext]
  | none =>
    -- the local is compared; it is not the own window
    have hother : ∀ window, processAnswer d s window ≠ (processID d s).1 := by
      rcases hwindow with hwindow | hwindow
      · exact absurd hfound hwindow
      · exact hwindow
    simp [hother window]

/-- If the window is not found and the gate works, no contents of the local let
    the TeamSpeak window appear to have the focus. -/
theorem answered_of_focusGate (n : Notification CString) (h : FocusGate d s n) :
    Answered d s := by
  have hcontext : (contextAnswer d s).1 ≠ none :=
    (hasContext_perform d s default n).mp (h.context default)
  refine ⟨hcontext, ?_⟩
  cases hfound : (windowAnswer d s).1 with
  | some found => exact Or.inl (by simp)
  | none =>
    have hunknown : ¬ KnownFocused d s := by
      intro hknown
      obtain ⟨-, window, hwindow, -⟩ := hknown
      rw [hfound] at hwindow
      cases hwindow
    refine Or.inr ?_
    intro window hprocess
    have hfocus : focusedAt d s window = 1 := by
      rw [focusedAt_eq_one_iff, hfound]
      exact hprocess
    have hsuppressed := (suppressed_iff_focusedAt d s ⟨window, default⟩ n).mpr hfocus
    exact hunknown ((h.suppressed_iff _).mp hsuppressed)

/-- **Focus gate.** It works for a notification if and only if there is a
    context, and the focused window is found or no window is the own one. -/
theorem focusGate_iff (n : Notification CString) : FocusGate d s n ↔ Answered d s := by
  constructor
  · exact answered_of_focusGate d s n
  · intro h
    have hgate := focusedAt_iff_knownFocused d s h
    constructor
    · intro u
      rw [suppressed_iff_focusedAt, hgate]
    · intro u hunknown
      have hfocus : focusedAt d s u.window ≠ 1 := fun hf => hunknown ((hgate u.window).mp hf)
      rw [commands_perform, if_neg hfocus]
    · intro u
      exact (hasContext_perform d s u n).mpr h.1
    · intro window window' left
      have hsame : focusedAt d s window = 1 ↔ focusedAt d s window' = 1 :=
        (hgate window).trans (hgate window').symm
      rw [commands_perform, commands_perform]
      simp only [hsame]

end outcomes

/-- A desktop without a display: `xdo_new` fails, and so do the questions after
    it. -/
def noDisplay : Desktop Unit := fun c s =>
  match c with
  | .getpid => ((1 : Int), s)
  | .xdo_new => (none, s)
  | .xdo_free _ => ((), s)
  | .xdo_get_focused_window _ => (none, s)
  | .xdo_get_pid_window _ _ => ((0 : Int), s)
  | .printf _ => ((), s)
  | .system _ => ((), s)

/-- Without a display, libxdo is called with a `NULL` context. -/
theorem not_focusGate_noDisplay :
    ¬ ∀ n : Notification CString, FocusGate noDisplay () n := by
  intro h
  let hello : Notification CString :=
    .notify_private_message (CString.ofString "Bob") (CString.ofString "hi")
  have hanswered := answered_of_focusGate noDisplay () hello (h hello)
  exact hanswered.1 rfl

end TeamspeakNotifications
