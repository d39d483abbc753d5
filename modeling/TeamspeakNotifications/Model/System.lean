import TeamspeakNotifications.Framework.Layers
import TeamspeakNotifications.Model.Desktop
import TeamspeakNotifications.Model.World

/-! # The plugin as a whole

    `plugin.c` calls the functions of `notify.c` in the middle of its callbacks.
    Here a callback is written out down to the calls of libxdo and of `system`,
    and callbacks overlap: the client library calls them asynchronously and may
    be entered from several threads.

    * `SystemSig`: the calls of the client library and of the desktop. The event
      of a request is the return of the `notify_*` function.
    * `Thread`, `Thread.program`: a callback with all that its uninitialised
      variables hold.
    * `overlapping`: the run of some callbacks along a schedule, against one
      environment, which may change between any two calls.
    * `thread_alone`, `thread_blocks`: what one of them does.
    * `lobbyDesktop`, `moveAndMessage`: an environment and two callbacks.
-/

namespace TeamspeakNotifications

open Interaction CLib

/-! ## Section 1: Threads -/

/-- The calls of the plugin, on both sides. -/
abbrev SystemSig := PluginSig.sum DesktopSig

/-- What a call of `plugin.c` does on the desktop before it returns. `us n` is
    what the source leaves open there. -/
def onDesktop (us : Notification Str → Unspecified) : Call → DesktopM Unit
  | .request n => (n.map Str.text).perform (us n)
  | _ => pure ()

/-- A call of a callback, with what the uninitialised locals of `plugin.c` and
    of `notify.c` happen to hold. -/
structure Thread where
  activation : Activation
  unspecified : Notification Str → Unspecified

/-- The callback with the functions of `notify.c` written out. -/
def Thread.program (th : Thread) : Prog SystemSig (Option Int) :=
  @Prog.inline PluginSig DesktopSig _ (onDesktop th.unspecified)
    (th.activation.callback.body th.activation.locals)

instance : DecidableEq PluginSig.Call := inferInstanceAs (DecidableEq Call)

section overlapping

variable {σ κ : Type} {n : Nat}

/-- The calls of overlapping callbacks, each with the callback that made it, and
    what is left of them. -/
def overlapping (H : Handler SystemSig σ) (e : κ → σ → σ) (threads : Fin n → Thread)
    (ms : List (Moment (Fin n) κ)) (s : σ) :
    List (Fin n × Event SystemSig) × Pool SystemSig (Fin n) σ (Option Int) :=
  Pool.run H e ms ⟨fun i => (threads i).program, s⟩

/-- The callback has returned. -/
def Finished (q : Prog SystemSig (Option Int)) : Prop := ∃ res, q = .pure res

/-! ## Section 2: One of the callbacks -/

variable (H : Handler SystemSig σ) (e : κ → σ → σ) (threads : Fin n → Thread)
  (ms : List (Moment (Fin n) κ)) (s : σ) (i : Fin n)

/-- What the callback `i` has called of the client library. -/
def libraryTrace : Trace := lefts (part i (overlapping H e threads ms s).1)

/-- What the callback `i` has called on the desktop. -/
def desktopTrace : List (Event DesktopSig) := rights (part i (overlapping H e threads ms s).1)

/-- The callback `i` has returned. -/
def Returned : Prop := Finished ((overlapping H e threads ms s).2.threads i)

theorem thread_makes :
    ∃ p, ((threads i).activation.callback.body (threads i).activation.locals).Makes
        (libraryTrace H e threads ms s i) p ∧
      (Returned H e threads ms s i → (∃ res, p = .pure res) ∧
        Blocks (onDesktop (threads i).unspecified) (libraryTrace H e threads ms s i)
          (desktopTrace H e threads ms s i)) := by
  obtain ⟨p, hp, hdone⟩ := inline_makes
    (Pool.run_makes H e ms ⟨fun i => (threads i).program, s⟩ i)
  refine ⟨p, hp, ?_⟩
  rintro ⟨res, hres⟩
  obtain ⟨hpure, hblocks⟩ := hdone res hres
  exact ⟨⟨res, hpure⟩, hblocks⟩

/-- What a callback calls of the library among others, it calls alone, of some
    library; the whole of it, when it has returned. -/
theorem thread_alone :
    ∃ (h : Library (Trace × Unit)) (s' : Trace × Unit),
      libraryTrace H e threads ms s i <+: ((threads i).activation.serve h s').trace ∧
        (Returned H e threads ms s i →
          ((threads i).activation.serve h s').trace = libraryTrace H e threads ms s i) := by
  obtain ⟨p, hp, hdone⟩ := thread_makes H e threads ms s i
  -- the library that gives the same answers, and fails when it has no more
  obtain ⟨htrace, -⟩ := hp.run_replay (ClientLib.failing none none none).handler ()
  refine ⟨_, _, ⟨_, htrace.symm⟩, ?_⟩
  intro hreturned
  obtain ⟨⟨res, rfl⟩, -⟩ := hdone hreturned
  exact htrace.trans (List.append_nil _)

/-- Once a callback has returned, each of its requests has been carried out on
    the desktop, one after the other. -/
theorem thread_blocks (hreturned : Returned H e threads ms s i) :
    Blocks (onDesktop (threads i).unspecified) (libraryTrace H e threads ms s i)
      (desktopTrace H e threads ms s i) := by
  obtain ⟨p, -, hdone⟩ := thread_makes H e threads ms s i
  exact (hdone hreturned).2

end overlapping

/-! ## Section 3: Two callbacks at the same time -/

/-- The lobby, on a desktop on which another window has the focus. -/
def lobbyDesktop : Handler SystemSig Unit := fun c s =>
  match c with
  | .inl c => ((answering fun _ => lobby).answer c, s)
  | .inr c => ((otherFocused c ()).1, s)

/-- Client 2 enters the lobby and writes to the server, at the same time. -/
def moveAndMessage (i : Fin 2) : Thread :=
  ⟨⟨if i = 0 then .onClientMoveEvent 0 2 20 10
    else .onTextMessageEvent 0 TextMessageTarget_SERVER 2 (CString.ofString "Bob")
      (CString.ofString "hi") 0, default⟩, default⟩

/-- The two callbacks take turns. -/
def inTurns : List (Moment (Fin 2) Unit) :=
  (List.replicate 20 [Moment.turn 0, .turn 1]).flatten

set_option maxRecDepth 4000 in
theorem returned_moveAndMessage (i : Fin 2) :
    Returned lobbyDesktop (fun _ s => s) moveAndMessage inTurns () i := by
  match i with
  | 0 => exact ⟨none, rfl⟩
  | 1 => exact ⟨some 0, rfl⟩

end TeamspeakNotifications
