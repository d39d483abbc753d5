import TeamspeakNotifications.Framework.Interleaving
import TeamspeakNotifications.Properties.ConnectionIsolation

/-! # Server connections and overlapping callbacks

    The library keeps a state for each server connection. Callbacks of all
    connections overlap, and the states change between any two calls.

    * `Change`: a change of one connection's state.
    * `callsAmong`: the calls of overlapping callbacks to the client library, and
      their requests. What `notify.c` does for a request, on the one display that
      all connections share, is left out here.
    * `connections_separate`: a connection cannot tell what is done about others.
    * `calls_isolated`: the callbacks of one connection make the same calls, get
      the same answers and return the same values without the others.
-/

namespace TeamspeakNotifications

open Interaction CLib

/-- A change of one connection's state. -/
structure Change (σ : Type) where
  connection : UInt64
  becomes : σ → σ

/-- The world after a change. -/
def Change.apply {σ : Type} (x : Change σ) (w : World σ) : World σ :=
  Function.update w x.connection (x.becomes (w x.connection))

section overlapping

variable {σ : Type} {n : Nat}

/-- The calls of overlapping callbacks, each with the callback that made it, and
    what is left of them. -/
def callsAmong (g : UInt64 → Library σ) (acts : Fin n → Activation)
    (ms : List (Moment (Fin n) (Change σ))) (w : World σ) :
    List (Fin n × Event PluginSig) × Pool PluginSig (Fin n) (World σ) (Option Int) :=
  Pool.run (worldLibrary g) Change.apply ms
    ⟨fun i => (acts i).callback.body (acts i).locals, w⟩

/-- The moments about the connection `S`: turns of its callbacks, and changes of
    its state. -/
def momentsOf (S : UInt64) (acts : Fin n → Activation) (ms : List (Moment (Fin n) (Change σ))) :
    List (Moment (Fin n) (Change σ)) :=
  ms.filter (Moment.Concerns (fun i => (acts i).callback.connection = S)
    (fun x : Change σ => x.connection = S))

/-- A call about another connection. -/
def Elsewhere (S : UInt64) (c : Call) : Prop := ∃ T, T ≠ S ∧ About T c

variable (g g' : UInt64 → Library σ) (S : UInt64)

/-- Worlds that agree on `S` still do after the same call or change about `S` in
    both, or after any other in one of them. -/
theorem connections_separate (hg : g S = g' S) :
    Separates (worldLibrary g) (worldLibrary g') Change.apply Change.apply (About S)
      (Elsewhere S) (fun x : Change σ => x.connection = S) (fun w w' => w S = w' S) where
  agree := worldLibrary_agree g g' S hg
  frame := by
    rintro c w w' ⟨T, hT, hc⟩ hw
    exact (worldLibrary_frame g S hT c w hc).trans hw
  change := by
    rintro ⟨T, f⟩ w w' hT hw
    obtain rfl : T = S := hT
    show Function.update w T (f (w T)) T = Function.update w' T (f (w' T)) T
    rw [Function.update_self, Function.update_self, hw]
  other := by
    rintro ⟨T, f⟩ w w' hT hw
    show Function.update w T (f (w T)) S = w' S
    rw [Function.update_of_ne (Ne.symm hT)]
    exact hw

theorem body_about (u : Locals) (c : Callback) : (c.body u).Calls (About c.connection) := by
  rw [body_eq_decide]
  exact (decide_about c).bind fun _ => Prog.calls_pure _

/-- **Isolation of overlapping callbacks.** What the callbacks of the connection
    `S` call and request among the callbacks of all connections, they call and
    request by themselves, in any world that agrees on `S`. -/
theorem calls_isolated (hg : g S = g' S) (acts : Fin n → Activation)
    (ms : List (Moment (Fin n) (Change σ))) (w w' : World σ) (hw : w S = w' S) :
    (callsAmong g acts ms w).1.filter (fun e => (acts e.1).callback.connection = S) =
        (callsAmong g' acts (momentsOf S acts ms) w').1 ∧
      ∀ i, (acts i).callback.connection = S →
        (callsAmong g acts ms w).2.threads i =
          (callsAmong g' acts (momentsOf S acts ms) w').2.threads i := by
  let threads : Fin n → PluginM (Option Int) := fun i => (acts i).callback.body (acts i).locals
  have hgrouped : Pool.Grouped (About S) (Elsewhere S)
      (fun i => (acts i).callback.connection = S) (fun w w' => w S = w' S)
      (⟨threads, w⟩ : Pool PluginSig (Fin n) (World σ) (Option Int)) ⟨threads, w'⟩ := by
    refine ⟨fun i _ => rfl, ?_, ?_, hw⟩
    · intro i hi
      exact hi ▸ body_about (acts i).locals (acts i).callback
    · intro i hi
      exact (body_about (acts i).locals (acts i).callback).mono fun c hc => ⟨_, hi, hc⟩
  obtain ⟨hcalls, hfinal⟩ := Pool.run_group (connections_separate g g' S hg) ms hgrouped
  exact ⟨hcalls, hfinal.same⟩

end overlapping

/-- Client 2 pokes the user on two connections, on one of them twice. -/
def pokes (i : Fin 3) : Activation :=
  ⟨.onClientPokeEvent (if i = 0 then 0 else 1) 2 (CString.ofString "Bob") (CString.ofString "hi")
    0, default⟩

/-- The other connection changes while all callbacks are under way. -/
def pokesInTurns : List (Moment (Fin 3) (Change Unit)) :=
  [.turn 0, .turn 1, .turn 2, .turn 1, .change ⟨1, id⟩, .turn 0, .turn 2, .turn 1, .turn 0]

theorem calls_isolated_pokes :
    (callsAmong (fun _ => (answering fun _ => lobby).handler) pokes pokesInTurns
        (fun _ => ())).1.filter (fun e => (pokes e.1).callback.connection = 0) =
      (callsAmong lobbyOnly pokes (momentsOf 0 pokes pokesInTurns) (fun _ => ())).1 :=
  (calls_isolated _ lobbyOnly 0 rfl pokes pokesInTurns _ _ rfl).1

end TeamspeakNotifications
