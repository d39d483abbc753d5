import TeamspeakNotifications.Framework.SharedLedger
import TeamspeakNotifications.Model.System
import TeamspeakNotifications.Properties.StringLedger

/-! # Who owns the library's strings

    Callbacks overlap, and all of them obtain, show and release strings of one
    library. A string is shown until the `notify_*` function returns.

    * `kept`: the strings that a callback obtains and does not release, which are
      those of the move callbacks.
    * `settle_decide`: a callback by itself uses and releases only what it has
      obtained, and leaves what it keeps.
    * `strings_owned`: so do overlapping callbacks, at any moment of any run; and
      when all have returned, what they keep is what is lost.
-/

namespace TeamspeakNotifications

open Interaction CLib Ledger

/-! ## Section 1: What a callback keeps -/

/-- The callbacks that never release a string. -/
def Callback.isMove : Callback → Bool
  | .onClientMoveEvent _ _ _ _ => true
  | .onClientMoveMovedEvent _ _ _ _ _ _ => true
  | _ => false

/-- The strings of the library that the callback `c` has obtained in the trace
    and never releases. -/
def kept (c : Callback) (t : Trace) : List LibString :=
  if c.isMove then acquired (actions t) else []

/-- The call obtains and releases nothing, and shows no other string of the
    library than `name`. -/
def Using (name : LibString) : Call → Prop
  | .getClientVariableAsString _ _ _ => False
  | .getChannelVariableAsString _ _ _ => False
  | .getServerVariableAsString _ _ => False
  | .freeMemory _ => False
  | .request n => ∀ p ∈ n.strings.filterMap Str.owned?, p = name
  | _ => True

/-- The actions settle, and everything acquired is outstanding at the end. -/
def Keeps (as : List (Action LibString)) : Prop := settle [] as = some (acquired as)

section callback

variable {σ : Type} (h : Library σ) (s : σ) (S : UInt64)

theorem uses_of_using {α : Type} {name : LibString} {p : PluginM α}
    (hp : p.Calls (Using name)) :
    ∃ us : List LibString, (∀ u ∈ us, u = name) ∧
      actions (p.run h s).trace = us.map .use := by
  have husing := hp.run_trace h s
  generalize (p.run h s).trace = t at husing
  induction t with
  | nil => exact ⟨[], by simp, rfl⟩
  | cons e t ih =>
    have hhere := husing e List.mem_cons_self
    obtain ⟨us, hus, hactions⟩ := ih fun e' he' => husing e' (List.mem_cons_of_mem e he')
    have hcons : actions (e :: t) = actionOf e ++ actions t := List.flatMap_cons
    rw [hcons, hactions]
    obtain ⟨c, r⟩ := e
    cases c with
    | request n =>
      refine ⟨n.strings.filterMap Str.owned? ++ us, ?_, List.map_append.symm⟩
      intro u hu
      rcases List.mem_append.mp hu with hu | hu
      · exact hhere u hu
      · exact hus u hu
    | logMessage | getClientID | getChannelOfClient => exact ⟨us, hus, rfl⟩
    | getClientVariableAsString | getChannelVariableAsString | getServerVariableAsString
    | freeMemory => exact hhere.elim

/-- A name that is obtained and then only shown. -/
theorem keeps_withName {query : PluginM (Reply LibString)}
    (hquery : actions (query.run h s).trace =
      (query.run h s).value.result?.toList.map .acquire)
    (message : String) {act : LibString → PluginM Unit}
    (hact : ∀ name, (act name).Calls (Using name)) :
    Keeps (actions ((withName query message S act).run h s).trace) := by
  rw [actions_withName h s S hquery]
  cases (query.run h s).value.result? with
  | none => rfl
  | some name =>
    obtain ⟨us, hus, hactions⟩ := uses_of_using h (query.run h s).state (hact name)
    have huses : settle [name] (us.map .use) = some [name] :=
      settle_uses [name] us fun u hu => List.mem_singleton.mpr (hus u hu)
    have hnone : acquired (us.map Action.use) = [] := by
      unfold acquired
      rw [List.filterMap_map]
      exact List.filterMap_eq_nil_iff.mpr fun u _ => rfl
    show settle [name] (actions ((act name).run h (query.run h s).state).trace) =
      some (name :: acquired (actions ((act name).run h (query.run h s).state).trace))
    rw [hactions, huses, hnone]

theorem keeps_named (clientID : AnyID) (oldChannelID newChannelID : UInt64)
    {mover : Option Str} (hmover : mover.bind Str.owned? = none) :
    Keeps (actions ((decideNamed S clientID oldChannelID newChannelID mover).run h s).trace) := by
  apply keeps_withName h s S (List.append_nil _)
  intro name
  -- of the two strings shown only the name is the library's
  have hshown : ∀ p ∈ (Str.lib name :: mover.toList).filterMap Str.owned?, p = name := by
    intro p hp
    cases mover with
    | none => simpa [Str.owned?] using hp
    | some m =>
      cases m with
      | arg s => simpa [Str.owned?] using hp
      | lib q => exact absurd hmover (by simp [Str.owned?])
  exact decideMembership_calls (fun _ _ => trivial) trivial (fun _ => trivial) hshown hshown _ _

/-- A move callback keeps the name it obtains, if it does. -/
theorem keeps_decide {c : Callback} (hc : c.isMove = true) :
    Keeps (actions (c.decide.run h s).trace) := by
  cases c with
  | onClientMoveEvent S clientID oldChannelID newChannelID =>
    show Keeps (actions ((decideMove S clientID oldChannelID newChannelID).run h s).trace)
    unfold decideMove
    rw [actions_entry]
    by_cases hself : (ownIDAnswer h "onClientMoveEvent" S s).1 = some clientID
    · rw [Prog.when_neg (not_not.mpr hself)]
      rfl
    · rw [Prog.when_pos hself]
      exact keeps_named h _ S clientID oldChannelID newChannelID rfl
  | onClientMoveMovedEvent S clientID oldChannelID newChannelID moverID moverName =>
    show Keeps (actions ((decideMoved S clientID oldChannelID newChannelID moverID
      moverName).run h s).trace)
    unfold decideMoved
    rw [actions_entry]
    generalize ownIDAnswer h "onClientMoveMovedEvent" S s = answer
    obtain ⟨self, s₁⟩ := answer
    cases self with
    | none => rfl
    | some myID =>
      dsimp only
      by_cases hmover : moverID = myID
      · rw [if_pos hmover]
        by_cases hclient : clientID = myID
        · rw [Prog.when_neg (not_not.mpr hclient)]
          rfl
        · rw [Prog.when_pos hclient]
          apply keeps_withName h s₁ S (List.append_nil _)
          intro name
          apply (Prog.calls_perform _).mpr
          intro p hp
          simpa [Notification.strings, Str.owned?] using hp
      · rw [if_neg hmover]
        exact keeps_named h s₁ S clientID oldChannelID newChannelID rfl
  | onUpdateChannelEditedEvent | onTextMessageEvent | onClientPokeEvent | stub =>
    exact absurd hc (by simp [Callback.isMove])

/-- **One callback.** It uses and releases what it has obtained, and leaves what
    it keeps. -/
theorem settle_decide (c : Callback) :
    settle [] (actions (c.decide.run h s).trace) = some (kept c (c.decide.run h s).trace) := by
  unfold kept
  by_cases hc : c.isMove = true
  · rw [if_pos hc]
    exact keeps_decide h s hc
  · rw [if_neg hc]
    apply (clean_decide_iff h s c).mpr
    -- only a move callback obtains a name that it does not release
    cases c with
    | onClientMoveEvent | onClientMoveMovedEvent => exact absurd rfl hc
    | onUpdateChannelEditedEvent | onTextMessageEvent | onClientPokeEvent | stub => exact id

end callback

/-! ## Section 2: Overlapping callbacks -/

section overlapping

variable {σ κ : Type} {n : Nat} (H : Handler SystemSig σ) (e : κ → σ → σ)
  (threads : Fin n → Thread) (ms : List (Moment (Fin n) κ)) (s : σ)

/-- What has been done with strings so far, by whom. -/
def stringActions : List (Fin n × Action LibString) :=
  tagged (onLeft (S := PluginSig) actionOf) (overlapping H e threads ms s).1

theorem part_stringActions (i : Fin n) :
    part i (stringActions H e threads ms s) = actions (libraryTrace H e threads ms s i) := by
  unfold stringActions
  rw [part_tagged, flatMap_onLeft]
  rfl

/-- Each of the callbacks keeps to its own strings, and leaves what it keeps
    when it returns. -/
theorem settle_thread (i : Fin n) :
    ∃ ys, settle [] (part i (stringActions H e threads ms s)) = some ys ∧
      (Returned H e threads ms s i →
        ys = kept (threads i).activation.callback (libraryTrace H e threads ms s i)) := by
  rw [part_stringActions]
  obtain ⟨h, s', hprefix, hdone⟩ := thread_alone H e threads ms s i
  obtain ⟨rest, hrest⟩ := hprefix
  have hwhole := settle_decide h s' (threads i).activation.callback
  rw [← serve_trace] at hwhole
  have hsplit := hwhole
  rw [← hrest, actions_append] at hsplit
  obtain ⟨ys, hys⟩ := exists_settle_of_initial hsplit
  refine ⟨ys, hys, ?_⟩
  intro hreturned
  rw [hdone hreturned, hys] at hwhole
  exact Option.some.inj hwhole

/-- **Ownership.** However callbacks overlap, at no moment has a string of the
    library been shown or released that was not outstanding; and once all of
    them have returned, the strings outstanding are those the move callbacks
    have obtained. -/
theorem strings_owned :
    ∃ out, settle [] ((stringActions H e threads ms s).map Prod.snd) = some out ∧
      ((∀ i, Returned H e threads ms s i) →
        out.Perm ((List.finRange n).flatMap fun i =>
          kept (threads i).activation.callback (libraryTrace H e threads ms s i))) := by
  choose ys hys hkept using settle_thread H e threads ms s
  -- nobody has anything at the beginning
  have hstart : ([] : List LibString).Perm ((List.finRange n).flatMap fun _ => []) := by
    rw [List.flatMap_eq_nil_iff.mpr fun _ _ => rfl]
  obtain ⟨out, hout, hperm⟩ := settle_shared (List.nodup_finRange n)
    (fun a _ => List.mem_finRange a.1) (fun i _ => hys i) hstart
  refine ⟨out, hout, ?_⟩
  intro hreturned
  have hsame : ys = fun i =>
      kept (threads i).activation.callback (libraryTrace H e threads ms s i) :=
    funext fun i => hkept i (hreturned i)
  rw [← hsame]
  exact hperm

end overlapping

/-- The nickname stays behind, the server's name does not. -/
theorem strings_owned_moveAndMessage :
    ∃ out, settle [] ((stringActions lobbyDesktop (fun _ s => s) moveAndMessage
        inTurns ()).map Prod.snd) = some out ∧ out.Perm [lobby.nickname 2] := by
  obtain ⟨out, hout, hperm⟩ := strings_owned lobbyDesktop (fun _ s => s) moveAndMessage inTurns ()
  exact ⟨out, hout, hperm returned_moveAndMessage⟩

end TeamspeakNotifications
