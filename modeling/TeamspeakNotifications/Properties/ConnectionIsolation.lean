import Mathlib.Logic.Function.Basic
import TeamspeakNotifications.Model.World

/-! # Server connections do not interfere

    The library keeps a state for each server connection. A query or a log
    message concerns the state of the connection it names; between events, the
    states change as they like.

    * `worldLibrary`: the libraries of the connections, put together.
    * `Happening`, `interleaving`: a run of the plugin, from its start on, in which
      the events of all connections are interleaved with changes of their
      states.
    * `effects_isolated`: what the events of one connection cause is what they
      cause in the run without the others, against a world of which only this
      connection is the same.
-/

namespace TeamspeakNotifications

open Interaction CLib

/-! ## Section 1: The world -/

/-- The states of the library, one for each connection. -/
abbrev World (σ : Type) := UInt64 → σ

/-- A call served by the library of the connection `S`, from its state. -/
def serveAt {σ : Type} (g : UInt64 → Library σ) (S : UInt64) (c : Call) (w : World σ) :
    Call.Answer c × World σ :=
  ((g S c (w S)).1, Function.update w S (g S c (w S)).2)

/-- Each call is served by the library of the connection it names. Frees and
    requests name none. -/
def worldLibrary {σ : Type} (g : UInt64 → Library σ) : Library (World σ) := fun c w =>
  match c with
  | .logMessage message severity channel S =>
    serveAt g S (.logMessage message severity channel S) w
  | .getClientID S => serveAt g S (.getClientID S) w
  | .getChannelOfClient S client => serveAt g S (.getChannelOfClient S client) w
  | .getClientVariableAsString S client flag =>
    serveAt g S (.getClientVariableAsString S client flag) w
  | .getChannelVariableAsString S channel flag =>
    serveAt g S (.getChannelVariableAsString S channel flag) w
  | .getServerVariableAsString S flag => serveAt g S (.getServerVariableAsString S flag) w
  | .freeMemory _ => ((), w)
  | .request _ => ((), w)

/-- What happens in a run: an event, or a change of one connection's state. -/
inductive Happening (σ : Type) where
  | event (a : Activation)
  | change (S : UInt64) (f : σ → σ)

/-- The connection it concerns. -/
def Happening.connection {σ : Type} : Happening σ → UInt64
  | .event a => a.callback.connection
  | .change S _ => S

/-- The callbacks served in a run. -/
def serveAll {σ : Type} (g : UInt64 → Library σ) :
    List (Happening σ) → World σ → List (Step (World σ))
  | [], _ => []
  | .event a :: xs, w =>
    a.serve (worldLibrary g) w :: serveAll g xs (a.serve (worldLibrary g) w).after
  | .change S f :: xs, w => serveAll g xs (Function.update w S (f (w S)))

/-- The callbacks served after the start of the plugin, with changes of the
    connections' states between them; none if the start fails. -/
def interleaving {σ : Type} (i : Start) (g : UInt64 → Library σ) (xs : List (Happening σ))
    (w : World σ) : List (Step (World σ)) :=
  if (i.run (worldLibrary g) w).value.1 = 0 then
    serveAll g xs (i.run (worldLibrary g) w).state
  else []

/-- What an event causes: its calls with their answers, i.e. queries, log
    messages, frees and requests, and the value it returns. -/
def Step.effects {τ : Type} (st : Step τ) : Activation × Trace × Option Int :=
  (st.activation, st.trace, st.value)

/-- What the events of the connection `S` cause. -/
def effectsOf {τ : Type} (S : UInt64) (sts : List (Step τ)) :
    List (Activation × Trace × Option Int) :=
  (sts.filter fun st => st.activation.callback.connection = S).map Step.effects

theorem effectsOf_cons_of_eq {τ : Type} {S : UInt64} {st : Step τ} (sts : List (Step τ))
    (h : st.activation.callback.connection = S) :
    effectsOf S (st :: sts) = st.effects :: effectsOf S sts := by
  unfold effectsOf
  rw [List.filter_cons_of_pos (by simpa using h), List.map_cons]

theorem effectsOf_cons_of_ne {τ : Type} {S : UInt64} {st : Step τ} (sts : List (Step τ))
    (h : st.activation.callback.connection ≠ S) : effectsOf S (st :: sts) = effectsOf S sts := by
  unfold effectsOf
  rw [List.filter_cons_of_neg (by simpa using h)]

/-! ## Section 2: Calls of a callback -/

/-- The call names the connection `S` or none. -/
def About (S : UInt64) : Call → Prop
  | .logMessage _ _ _ T => T = S
  | .getClientID T => T = S
  | .getChannelOfClient T _ => T = S
  | .getClientVariableAsString T _ _ => T = S
  | .getChannelVariableAsString T _ _ => T = S
  | .getServerVariableAsString T _ => T = S
  | .freeMemory _ => True
  | .request _ => True

section about

variable (S : UInt64)

theorem handles_about {γ : Type} {query : PluginM (Reply γ)}
    (hquery : query.Calls (About S)) : Handles (fun _ p => p.Calls (About S)) query := by
  intro β f failed hok herror hfailed
  apply hquery.bind
  intro r
  cases r with
  | ok v => exact hok v
  | error c left =>
    rw [herror]
    exact hfailed

theorem compositional_about : Compositional S (fun _ p => p.Calls (About S)) where
  pure := Prog.calls_pure
  bind := Prog.Calls.bind
  log := logMessage_calls fun _ _ => rfl
  free _ := (Prog.calls_perform _).mpr trivial
  shows _ := (Prog.calls_perform _).mpr trivial
  clientID := by
    apply handles_about
    exact (Prog.calls_perform _).mpr rfl
  channelOfClient _ := by
    apply handles_about
    exact (Prog.calls_perform _).mpr rfl
  clientVariable _ _ := by
    apply handles_about
    exact (Prog.calls_perform _).mpr rfl
  channelVariable _ _ := by
    apply handles_about
    exact (Prog.calls_perform _).mpr rfl
  serverVariable _ := by
    apply handles_about
    exact (Prog.calls_perform _).mpr rfl

end about

/-- A callback only makes calls about the connection of its event. -/
theorem decide_about (c : Callback) : c.decide.Calls (About c.connection) :=
  decide_of_compositional c (compositional_about c.connection)

/-! ## Section 3: Isolation -/

section isolation

variable {σ : Type} (g g' : UInt64 → Library σ) (S : UInt64)

/-- A call about another connection does not touch the state of `S`. -/
theorem worldLibrary_frame {T : UInt64} (hT : T ≠ S) (c : Call) (w : World σ)
    (hc : About T c) : (worldLibrary g c w).2 S = w S := by
  have hat : ∀ c, (serveAt g T c w).2 S = w S := fun c =>
    Function.update_of_ne (Ne.symm hT) _ _
  cases c with
  | freeMemory | request => rfl
  | logMessage | getClientID | getChannelOfClient | getClientVariableAsString
  | getChannelVariableAsString | getServerVariableAsString =>
    cases hc
    exact hat _

/-- A call about `S` is answered alike in worlds that agree on `S`, and they
    still agree afterwards. -/
theorem worldLibrary_agree (hg : g S = g' S) (c : Call) (w w' : World σ) (hc : About S c)
    (hw : w S = w' S) :
    (worldLibrary g c w).1 = (worldLibrary g' c w').1 ∧
      (worldLibrary g c w).2 S = (worldLibrary g' c w').2 S := by
  have hat : ∀ c, (serveAt g S c w).1 = (serveAt g' S c w').1 ∧
      (serveAt g S c w).2 S = (serveAt g' S c w').2 S := by
    intro c
    unfold serveAt
    rw [hg, hw]
    constructor
    · rfl
    · show Function.update w S _ S = Function.update w' S _ S
      rw [Function.update_self, Function.update_self]
  cases c with
  | freeMemory | request => exact ⟨rfl, hw⟩
  | logMessage | getClientID | getChannelOfClient | getClientVariableAsString
  | getChannelVariableAsString | getServerVariableAsString =>
    cases hc
    exact hat _

/-- The step for an event of another connection. -/
theorem serve_frame (a : Activation) (ha : a.callback.connection ≠ S) (w : World σ) :
    (a.serve (worldLibrary g) w).after S = w S := by
  rw [serve_after]
  exact (decide_about a.callback).run_preserves (fun v => v S = w S)
    (fun c v hc hv => (worldLibrary_frame g S ha c v hc).trans hv) w rfl

/-- The step for an event of `S`. -/
theorem serve_agree (hg : g S = g' S) (a : Activation) (ha : a.callback.connection = S)
    (w w' : World σ) (hw : w S = w' S) :
    (a.serve (worldLibrary g) w).effects = (a.serve (worldLibrary g') w').effects ∧
      (a.serve (worldLibrary g) w).after S = (a.serve (worldLibrary g') w').after S := by
  have hcalls : a.callback.decide.Calls (About S) := ha ▸ decide_about a.callback
  obtain ⟨-, htrace, hafter⟩ := hcalls.run_agree (fun v v' => v S = v' S)
    (fun c v v' hc hv => worldLibrary_agree g g' S hg c v v' hc hv) w w' hw
  unfold Step.effects
  rw [serve_trace, serve_trace, serve_value, serve_value, serve_after, serve_after, htrace]
  exact ⟨rfl, hafter⟩

/-- The run: what happens to other connections may be left out. -/
theorem serveAll_isolated (hg : g S = g' S) (xs : List (Happening σ)) (w w' : World σ)
    (hw : w S = w' S) :
    effectsOf S (serveAll g xs w) =
      (serveAll g' (xs.filter fun x => x.connection = S) w').map Step.effects := by
  induction xs generalizing w w' with
  | nil => rfl
  | cons x xs ih =>
    by_cases hx : x.connection = S
    · -- it happens on both sides, in worlds that agree on `S`
      rw [List.filter_cons_of_pos (by simpa using hx)]
      cases x with
      | event a =>
        obtain ⟨heffects, hafter⟩ := serve_agree g g' S hg a hx w w' hw
        have ha : (a.serve (worldLibrary g) w).activation.callback.connection = S := hx
        rw [serveAll, effectsOf_cons_of_eq _ ha, heffects, ih _ _ hafter]
        rfl
      | change T f =>
        have hT : T = S := hx
        subst hT
        apply ih
        show Function.update w T (f (w T)) T = Function.update w' T (f (w' T)) T
        rw [Function.update_self, Function.update_self, hw]
    · -- it happens on the left only, and leaves `S` alone
      rw [List.filter_cons_of_neg (by simpa using hx)]
      cases x with
      | event a =>
        have ha : (a.serve (worldLibrary g) w).activation.callback.connection ≠ S := hx
        rw [serveAll, effectsOf_cons_of_ne _ ha]
        exact ih _ _ ((serve_frame g S a hx w).trans hw)
      | change T f =>
        have hT : T ≠ S := hx
        apply ih
        rw [Function.update_of_ne (Ne.symm hT)]
        exact hw

/-- The start of the plugin leaves the library alone. -/
theorem start_state (i : Start) (w : World σ) : (i.run (worldLibrary g) w).state = w := by
  unfold Start.run ts3plugin_init
  generalize init_config i.files i.home i.conf = loaded
  obtain ⟨res, conf⟩ := loaded
  by_cases hres : res = -1
  · simp only [hres, if_true]
    rfl
  · simp only [hres, if_false]
    unfold show_welcome_message
    by_cases hw : conf.show_welcome = 1
    · rw [Prog.when_pos hw]
      rfl
    · rw [Prog.when_neg hw]
      rfl

/-- **Isolation.** What the events of the connection `S` cause in a session is
    what they cause in a session of these events only, in any world that agrees
    on `S`. -/
theorem effects_isolated (hg : g S = g' S) (i i' : Start) (w w' : World σ) (hw : w S = w' S)
    (hstart : (i.run (worldLibrary g) w).value.1 = 0)
    (hstart' : (i'.run (worldLibrary g') w').value.1 = 0)
    (xs : List (Happening σ)) :
    effectsOf S (interleaving i g xs w) =
      (interleaving i' g' (xs.filter fun x => x.connection = S) w').map Step.effects := by
  unfold interleaving
  rw [if_pos hstart, if_pos hstart', start_state, start_state]
  exact serveAll_isolated g g' S hg xs w w' hw

end isolation

/-- The lobby, while every query on another connection fails. -/
def lobbyOnly (S : UInt64) : Library Unit :=
  if S = 0 then (answering fun _ => lobby).handler
  else (ClientLib.failing none none none).handler

/-- Client 2 pokes the user on two connections. -/
def twoPokes : List (Happening Unit) :=
  [.event ⟨.onClientPokeEvent 0 2 (CString.ofString "Bob") (CString.ofString "hi") 0, default⟩,
    .event ⟨.onClientPokeEvent 1 2 (CString.ofString "Bob") (CString.ofString "hi") 0, default⟩]

theorem effects_isolated_twoPokes :
    effectsOf 0 (interleaving unconfigured (fun _ => (answering fun _ => lobby).handler) twoPokes
        (fun _ => ())) =
      (interleaving unconfigured lobbyOnly (twoPokes.filter fun x => x.connection = 0)
        (fun _ => ())).map Step.effects :=
  effects_isolated _ lobbyOnly 0 rfl unconfigured unconfigured _ _ rfl rfl rfl twoPokes

end TeamspeakNotifications
