import TeamspeakNotifications.Model.World

/-! # Undefined results

    A failed query leaves its result variable undefined. Two executions of a
    callback are compared whose uninitialised locals differ and whose library
    leaves different values behind in the variables of failed queries, but
    agrees otherwise.

    * `AnswerAgree`, `SameOutcomes`: libraries with the same outcomes.
    * `decide_similar`: the decisions of a callback do not look at what is left.
    * `undefined_not_observed`: both executions make the same calls, in the same
      order, and return the same value.
-/

namespace TeamspeakNotifications

open Interaction CLib

/-! ## Section 1: Answers with the same outcome -/

/-- Equal answers, except for what failed queries leave behind. -/
def AnswerAgree : (c : Call) → Call.Answer c → Call.Answer c → Prop
  | .getClientID _, r, r' => Reply.Agree r r'
  | .getChannelOfClient _ _, r, r' => Reply.Agree r r'
  | .getClientVariableAsString _ _ _, r, r' => Reply.Agree r r'
  | .getChannelVariableAsString _ _ _, r, r' => Reply.Agree r r'
  | .getServerVariableAsString _ _, r, r' => Reply.Agree r r'
  | .logMessage _ _ _ _, _, _ => True
  | .freeMemory _, _, _ => True
  | .request _, _, _ => True

/-- Two libraries whose queries have the same outcomes. -/
def SameOutcomes {σ : Type} (h h' : Library σ) : Prop :=
  ∀ (c : Call) (s : σ), AnswerAgree c (h c s).1 (h' c s).1 ∧ (h c s).2 = (h' c s).2

/-! ## Section 2: The decisions -/

/-- `p` and `q` make the same calls and return equal values as long as the
    outcomes of their queries are the same. -/
abbrev Alike {α : Type} (p q : PluginM α) : Prop := Prog.Similar AnswerAgree (· = ·) p q

section alike

variable {α β : Type} (S : UInt64)

theorem Alike.bind {p q : PluginM α} {f g : α → PluginM β} (hpq : Alike p q)
    (hfg : ∀ a, Alike (f a) (g a)) : Alike (p >>= f) (q >>= g) :=
  Prog.Similar.bind hpq fun a _ hab => hab ▸ hfg a

theorem alike_pure (a : α) : Alike (pure a) (pure a) := Prog.similar_pure rfl

/-- Two executions of one query. -/
abbrev Queried {γ : Type} (query : PluginM (Reply γ)) : Prop :=
  Prog.Similar AnswerAgree Reply.Agree query query

/-- After a query it matters whether it failed and, if not, what it answered. -/
theorem handles_alike {γ : Type} {query : PluginM (Reply γ)} (hquery : Queried query) :
    Handles (fun _ p => Alike p p) query := by
  intro β f failed hok herror hfailed
  apply Prog.Similar.bind hquery
  intro r r' hr
  cases r with
  | ok v =>
    cases r' with
    | ok w =>
      have hw : v = w := hr
      rw [← hw]
      exact hok v
    | error d left => exact hr.elim
  | error c left =>
    cases r' with
    | ok w => exact hr.elim
    | error d left' =>
      -- what is left in the variables differs, what follows does not
      rw [herror c left, herror d left']
      exact hfailed

theorem compositional_alike : Compositional S (fun _ p => Alike p p) where
  pure := alike_pure
  bind := Alike.bind
  log _ _ := Prog.similar_call fun _ _ _ => Prog.similar_pure rfl
  free _ := Prog.similar_call fun _ _ _ => Prog.similar_pure rfl
  shows _ := Prog.similar_call fun _ _ _ => Prog.similar_pure rfl
  clientID := by
    apply handles_alike
    exact Prog.similar_call fun _ _ hr => hr
  channelOfClient _ := by
    apply handles_alike
    exact Prog.similar_call fun _ _ hr => hr
  clientVariable _ _ := by
    apply handles_alike
    exact Prog.similar_call fun _ _ hr => hr
  channelVariable _ _ := by
    apply handles_alike
    exact Prog.similar_call fun _ _ hr => hr
  serverVariable _ := by
    apply handles_alike
    exact Prog.similar_call fun _ _ hr => hr

end alike

/-- No callback decides on what a failed query leaves behind. -/
theorem decide_similar (c : Callback) : Alike c.decide c.decide :=
  decide_of_compositional c (compositional_alike c.connection)

/-! ## Section 3: Two executions -/

section executions

variable {σ : Type} {h h' : Library σ} (hh : SameOutcomes h h')
include hh

/-- **Undefined results.** Whatever the uninitialised locals hold and failed
    queries leave behind, a callback makes the same calls in the same order and
    returns the same value. -/
theorem undefined_not_observed (c : Callback) (u u' : Locals) (s : σ) :
    (Activation.serve h ⟨c, u⟩ s).trace.map Event.call =
        (Activation.serve h' ⟨c, u'⟩ s).trace.map Event.call ∧
      (Activation.serve h ⟨c, u⟩ s).value = (Activation.serve h' ⟨c, u'⟩ s).value ∧
      (Activation.serve h ⟨c, u⟩ s).after = (Activation.serve h' ⟨c, u'⟩ s).after := by
  obtain ⟨htrace, -, hafter⟩ := Prog.run_similar (decide_similar c) hh s
  rw [serve_trace, serve_trace, serve_value, serve_value, serve_after, serve_after]
  exact ⟨htrace, rfl, hafter⟩

end executions

theorem failing_sameOutcomes (id id' : Option AnyID) (channel channel' : Option UInt64)
    (name name' : Option LibString) :
    SameOutcomes (ClientLib.failing id channel name).handler
      (ClientLib.failing id' channel' name').handler := by
  intro c s
  cases c with
  | logMessage | freeMemory | request => exact ⟨trivial, rfl⟩
  | getClientID | getChannelOfClient | getClientVariableAsString | getChannelVariableAsString
  | getServerVariableAsString => exact ⟨(rfl : ERROR_undefined = ERROR_undefined), rfl⟩

theorem undefined_not_observed_poke :
    let poke := Callback.onClientPokeEvent 0 2 (CString.ofString "Bob") (CString.ofString "hi") 0
    let st := Activation.serve (ClientLib.failing none none none).handler ⟨poke, default⟩ ()
    let st' := Activation.serve (ClientLib.failing (some 2) none none).handler
      ⟨poke, { (default : Locals) with myID := 2 }⟩ ()
    st.trace.map Event.call = st'.trace.map Event.call ∧ st.value = st'.value ∧
      st.after = st'.after :=
  undefined_not_observed (failing_sameOutcomes _ _ _ _ _ _) _ _ _ _

end TeamspeakNotifications
