import TeamspeakNotifications.Model.World
import TeamspeakNotifications.Model.Desktop

/-! # Connections to the X display

    `focused` opens a connection to the display with `xdo_new`. The display
    admits a limited number of connections for a process.

    * `display`: a desktop on which at most `N` connections are open at a time.
    * `NeverExhausted`: no connection is open when a `notify` call begins, and
      no context is `NULL`.
    * `nonNull_iff_length_le`: the contexts are not `NULL` exactly as long as no
      more than `N` notifications are requested.
    * `neverExhausted_iff`: in a session of the plugin nothing is left open
      between two `notify` calls exactly when there are no two of them. The
      welcome message counts.
-/

namespace TeamspeakNotifications

open Interaction CLib

/-! ## Section 1: The display -/

/-- The contexts that are open, the next one to be handed out, and the rest of
    the desktop. -/
structure Display (σ : Type) where
  opened : List Nat
  next : Nat
  rest : σ

/-- A display without connections. -/
def Display.initial {σ : Type} (s : σ) : Display σ := ⟨[], 0, s⟩

/-- `xdo_new` on a display that admits `N` connections. -/
def connect {σ : Type} (N : Nat) (x : Display σ) : Option Nat × Display σ :=
  if x.opened.length < N then
    (some x.next, { x with opened := x.next :: x.opened, next := x.next + 1 })
  else (none, x)

/-- A desktop that answers like `d`, with a display that admits `N`
    connections. -/
def display {σ : Type} (N : Nat) (d : Desktop σ) : Desktop (Display σ) := fun c x =>
  match c with
  | .xdo_new => connect N x
  | .xdo_free xdo => ((), { x with opened := x.opened.erase xdo })
  | .getpid => ((d .getpid x.rest).1, { x with rest := (d .getpid x.rest).2 })
  | .xdo_get_focused_window xdo =>
    ((d (.xdo_get_focused_window xdo) x.rest).1,
      { x with rest := (d (.xdo_get_focused_window xdo) x.rest).2 })
  | .xdo_get_pid_window xdo window =>
    ((d (.xdo_get_pid_window xdo window) x.rest).1,
      { x with rest := (d (.xdo_get_pid_window xdo window) x.rest).2 })
  | .printf output => ((), { x with rest := (d (.printf output) x.rest).2 })
  | .system command => ((), { x with rest := (d (.system command) x.rest).2 })

/-- The context in the event is not `NULL`. -/
def NonNull : Event DesktopSig → Prop
  | ⟨.xdo_new, (xdo : Option Nat)⟩ => xdo ≠ none
  | ⟨.xdo_get_focused_window xdo, _⟩ => xdo ≠ none
  | _ => True

/-! ## Section 2: One `notify` call -/

section notify

variable {σ : Type} (N : Nat) (d : Desktop σ) (u : Unspecified) (x : Display σ)

theorem opened_of_shows {p : DesktopM Unit} (hp : p.Calls Shows) :
    (p.run (display N d) x).state.opened = x.opened := by
  have hstep : ∀ c y, Shows c → y.opened = x.opened →
      (display N d c y).2.opened = x.opened := by
    intro c y hc hy
    cases c with
    | printf output => exact hy
    | system command => exact hy
    | getpid | xdo_new | xdo_free | xdo_get_focused_window | xdo_get_pid_window =>
      exact hc.elim
  apply hp.run_preserves (fun y : Display σ => y.opened = x.opened)
  · exact hstep
  · rfl

theorem nonNull_of_shows {p : DesktopM Unit} (hp : p.Calls Shows) :
    ∀ e ∈ (p.run (display N d) x).trace, NonNull e := by
  intro e he
  have hshows := hp.run_trace (display N d) x e he
  obtain ⟨c, r⟩ := e
  cases c with
  | printf output => trivial
  | system command => trivial
  | getpid | xdo_new | xdo_free | xdo_get_focused_window | xdo_get_pid_window =>
    exact hshows.elim

/-- The display when `focused` asks for a connection. -/
def Display.asked (x : Display σ) : Display σ := { x with rest := (d .getpid x.rest).2 }

theorem opened_focused :
    ((focused u.window).run (display N d) x).state.opened = (connect N (x.asked d)).2.opened := rfl

theorem nonNull_focused :
    (∀ e ∈ ((focused u.window).run (display N d) x).trace, NonNull e) ↔
      (connect N (x.asked d)).1 ≠ none := by
  show (∀ e ∈ [(⟨.getpid, _⟩ : Event DesktopSig), ⟨.xdo_new, _⟩,
    ⟨.xdo_get_focused_window _, _⟩, ⟨.xdo_get_pid_window _ _, _⟩], NonNull e) ↔ _
  simp only [List.forall_mem_cons]
  constructor
  · intro h
    obtain ⟨-, hnew, -⟩ := h
    exact hnew
  · intro hnew
    exact ⟨trivial, hnew, hnew, trivial, fun e he => by cases he⟩

/-- A request opens a connection if there is room for one. -/
theorem opened_serve (n : Notification CString) :
    (n.serve (display N d) u x).after.opened = (connect N (x.asked d)).2.opened := by
  unfold Notification.serve
  rw [Notification.perform_eq]
  unfold TeamspeakNotifications.notify
  rw [Prog.run_bind]
  calc _ = ((focused u.window).run (display N d) x).state.opened :=
        opened_of_shows N d _ (shows_notify _ _ _ _)
    _ = (connect N (x.asked d)).2.opened := opened_focused N d u x

theorem opened_serve_of_room (hroom : x.opened.length < N) (n : Notification CString) :
    (n.serve (display N d) u x).after.opened = x.next :: x.opened := by
  rw [opened_serve, connect, if_pos (by exact hroom)]
  rfl

/-- The step: no context of a request is `NULL` exactly if there is room for a
    connection. -/
theorem nonNull_serve (n : Notification CString) :
    (∀ e ∈ (n.serve (display N d) u x).trace, NonNull e) ↔ x.opened.length < N := by
  have hnew : (connect N (x.asked d)).1 ≠ none ↔ x.opened.length < N := by
    unfold connect
    by_cases hroom : x.opened.length < N
    · rw [if_pos (by exact hroom)]
      simp [hroom]
    · rw [if_neg (by exact hroom)]
      simp [hroom]
  rw [← hnew, ← nonNull_focused N d u x]
  unfold Notification.serve
  rw [Notification.perform_eq]
  unfold TeamspeakNotifications.notify
  rw [Prog.run_bind]
  constructor
  · intro h e he
    exact h e (List.mem_append_left _ he)
  · intro h e he
    rcases List.mem_append.mp he with he | he
    · exact h e he
    · exact nonNull_of_shows N d _ (shows_notify _ _ _ _) e he

end notify

/-! ## Section 3: Runs -/

section runs

variable {σ : Type} (N : Nat) (d : Desktop σ)

/-- The contexts of a run are not `NULL` exactly as long as the display has room
    for one connection for each request. -/
theorem nonNull_iff_length_le (ns : List (Notification CString)) (us : Nat → Unspecified)
    (x : Display σ) (hx : x.opened.length ≤ N) :
    (∀ st ∈ performAll (display N d) us ns x, ∀ e ∈ st.trace, NonNull e) ↔
      x.opened.length + ns.length ≤ N := by
  induction ns generalizing us x with
  | nil => simp [performAll, hx]
  | cons n ns ih =>
    have hstep := nonNull_serve N d (us 0) x n
    simp only [performAll, List.forall_mem_cons, hstep, List.length_cons]
    by_cases hroom : x.opened.length < N
    · have hopened := opened_serve_of_room N d (us 0) x hroom n
      have hlength : (n.serve (display N d) (us 0) x).after.opened.length =
          x.opened.length + 1 := by rw [hopened, List.length_cons]
      have hrest := ih (fun i => us (i + 1)) (n.serve (display N d) (us 0) x).after
        (by omega)
      rw [hlength] at hrest
      simp only [hroom, true_and, hrest]
      omega
    · simp only [hroom, false_and, false_iff]
      omega

/-- No connection is open when a `notify` call begins, and no context is
    `NULL`. -/
structure NeverExhausted (us : Nat → Unspecified) (ns : List (Notification CString)) (s : σ) :
    Prop where
  closed : ∀ st ∈ performAll (display N d) us ns (Display.initial s),
    st.before.opened = []
  nonNull : ∀ st ∈ performAll (display N d) us ns (Display.initial s),
    ∀ e ∈ st.trace, NonNull e

theorem neverExhausted_of_requests (hN : 0 < N) (us : Nat → Unspecified)
    (ns : List (Notification CString)) (s : σ) :
    NeverExhausted N d us ns s ↔ ns.length ≤ 1 := by
  have hnonNull := nonNull_iff_length_le N d ns us (Display.initial s) (Nat.zero_le N)
  constructor
  · intro h
    match ns with
    | [] => simp
    | [n] => simp
    | n :: m :: ns =>
      -- the second call begins with the first call's connection open
      have hopened := opened_serve_of_room N d (us 0) (Display.initial s) hN n
      have hclosed : (n.serve (display N d) (us 0) (Display.initial s)).after.opened = [] :=
        h.closed _ (List.mem_cons_of_mem _ (List.mem_cons_self ..))
      rw [hopened] at hclosed
      cases hclosed
  · intro hlength
    constructor
    · match ns, hlength with
      | [], _ => simp [performAll]
      | [n], _ =>
        intro st hst
        cases List.mem_singleton.mp hst
        rfl
    · apply hnonNull.mpr
      simp only [Display.initial, List.length_nil]
      omega

/-- The notifications requested in a session of the plugin, in order: the
    welcome message, if it is shown, and those of the callbacks. -/
def requested {τ : Type} (i : Start) (h : Library τ) (acts : List Activation) (t : τ) :
    List (Notification CString) :=
  (requests (i.run h t).trace ++
    (session i h acts t).flatMap fun st => requests st.trace).map (Notification.map Str.text)

/-- **Display connections.** In a session, nothing is left open between two
    `notify` calls and no context is `NULL` if and only if at most one
    notification is requested. -/
theorem neverExhausted_iff (hN : 0 < N) {τ : Type} (i : Start) (h : Library τ)
    (acts : List Activation) (t : τ) (us : Nat → Unspecified) (s : σ) :
    NeverExhausted N d us (requested i h acts t) s ↔ (requested i h acts t).length ≤ 1 :=
  neverExhausted_of_requests N d hN us _ s

end runs

theorem neverExhausted_iff_welcome :
    NeverExhausted 1 otherFocused default
        (requested unconfigured (answering fun _ => lobby).handler [] ()) () ↔
      (requested unconfigured (answering fun _ => lobby).handler [] ()).length ≤ 1 :=
  neverExhausted_iff 1 otherFocused (by decide) _ _ _ _ _ _

/-- Client 2 pokes the user. -/
def poke : Activation :=
  ⟨.onClientPokeEvent 0 2 (CString.ofString "Bob") (CString.ofString "hi") 0, default⟩

/-- After the welcome message a poke finds the display exhausted. -/
theorem not_neverExhausted_poke :
    ¬ ∀ acts : List Activation,
      NeverExhausted 1 otherFocused default
        (requested unconfigured (answering fun _ => lobby).handler acts ()) () := by
  intro h
  have hlength := (neverExhausted_of_requests 1 otherFocused (by decide) _ _ _).mp (h [poke])
  exact absurd hlength (by decide)

end TeamspeakNotifications
