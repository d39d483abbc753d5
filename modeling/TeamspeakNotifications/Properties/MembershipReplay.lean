import TeamspeakNotifications.Framework.Roster
import TeamspeakNotifications.Model.World

/-! # Joins and leaves as a log of the channel

    The own client sits in one channel while others come and go. Each move is
    announced by `onClientMoveEvent` or, if somebody moved the client, by
    `onClientMoveMovedEvent`. The requested joins and leaves form a log.

    * `Room`, `Move`: what is fixed during a run, and one move of it.
    * `Faithful`: after every prefix the log replays to who is in the channel.
    * `faithful_iff`: it does as long as the own client does not carry anybody
      into its channel or out of it. Those moves are reported as `notify_move`
      and are missing from the log.
-/

namespace TeamspeakNotifications

open Interaction CLib Roster

/-! ## Section 1: Runs -/

/-- What does not change during a run: the own client, its channel, and the
    clients' nicknames, which tell them apart. -/
structure Room where
  own : AnyID
  channel : UInt64
  nickname : AnyID → CString
  distinct : Function.Injective nickname

/-- A library that answers accordingly, at any time. The nicknames may lie
    anywhere. -/
structure RoomLibrary (R : Room) (S : UInt64) (σ : Type) where
  handler : Library σ
  knows : Knows handler S R.own R.channel
  nickname : ∀ s c, ∃ p, (nicknameAnswer handler S s c).1 = .ok p ∧ p.text = R.nickname c

/-- One move of another client. `mover` is `none` if the client moved itself;
    otherwise it is any client, the own one included. -/
structure Move (R : Room) where
  client : AnyID
  other : client ≠ R.own
  newChannelID : UInt64
  mover : Option (AnyID × CString)
  locals : Locals

variable {R : Room} {S : UInt64} {σ : Type}

/-- The event that announces the move of a client from `oldChannelID`. -/
def Move.callback (S : UInt64) (oldChannelID : UInt64) (m : Move R) : Callback :=
  match m.mover with
  | none => .onClientMoveEvent S m.client oldChannelID m.newChannelID
  | some (moverID, moverName) =>
    .onClientMoveMovedEvent S m.client oldChannelID m.newChannelID moverID moverName

/-- The events of a run that starts with the clients at `place`; 0 is "not on
    the server". -/
def announce (S : UInt64) (place : AnyID → UInt64) : List (Move R) → List Activation
  | [] => []
  | m :: ms => ⟨m.callback S (place m.client), m.locals⟩ ::
      announce S (Function.update place m.client m.newChannelID) ms

/-- Where the clients are after a run. -/
def placeAfter (place : AnyID → UInt64) : List (Move R) → AnyID → UInt64
  | [] => place
  | m :: ms => placeAfter (Function.update place m.client m.newChannelID) ms

/-- The entry a notification makes in the log of the channel. -/
def entryOf : Notification Str → Option (Entry CString)
  | .notify_join client _ => some (.join client.text)
  | .notify_leave client _ => some (.leave client.text)
  | _ => none

/-- The log of one served callback. -/
def Step.log (st : Step σ) : List (Entry CString) := (requests st.trace).filterMap entryOf

/-- The log of a run. -/
def membershipLog (L : RoomLibrary R S σ) (place : AnyID → UInt64) (ms : List (Move R))
    (s : σ) : List (Entry CString) :=
  (runCallbacks L.handler (announce S place ms) s).flatMap Step.log

/-- The callback that announces a move, served. -/
def Move.serve (L : RoomLibrary R S σ) (place : AnyID → UInt64) (s : σ) (m : Move R) : Step σ :=
  Activation.serve L.handler ⟨m.callback S (place m.client), m.locals⟩ s

/-- The names of the other clients in the own client's channel. -/
def Room.present (R : Room) (place : AnyID → UInt64) : Set CString :=
  presentAt R.nickname (· ≠ R.own) place R.channel

/-- After every prefix of the run, the log so far leads from those who were
    present at its start to those who are present now. -/
def Faithful (L : RoomLibrary R S σ) (place : AnyID → UInt64) (ms : List (Move R)) (s : σ) :
    Prop :=
  ∀ done rest, ms = done ++ rest →
    Replays (R.present place) (membershipLog L place done s) (R.present (placeAfter place done))

/-- The own client made the move. -/
def Move.ByOwn (m : Move R) : Prop := ∃ moverName, m.mover = some (R.own, moverName)

/-- The move does not take the client across the border of the own client's
    channel. -/
def Move.Within (place : AnyID → UInt64) (m : Move R) : Prop :=
  m.newChannelID = R.channel ↔ place m.client = R.channel

/-! ## Section 2: One move -/

section move

variable (L : RoomLibrary R S σ) (m : Move R) (place : AnyID → UInt64) (s : σ)

/-- The log of two reports of a move. -/
theorem filterMap_membershipReports (client : Str) (oldChannelID newChannelID : UInt64)
    (mover : Option Str) :
    (membershipReports (some R.channel) client oldChannelID newChannelID mover).filterMap
        entryOf =
      relocation R.channel client.text oldChannelID newChannelID := by
  unfold membershipReports relocation
  by_cases hold : oldChannelID = R.channel
  · by_cases hnew : newChannelID = R.channel <;> simp [hold, hnew, eq_comm, entryOf]
  · by_cases hnew : newChannelID = R.channel <;> simp [hold, hnew, eq_comm, entryOf]

/-- The same under the nickname that the library answers. -/
theorem filterMap_named (oldChannelID newChannelID : UInt64) (client : AnyID)
    (mover : Option Str) :
    ((nicknameAnswer L.handler S s client).1.result?.elim [] (fun name =>
        membershipReports (some R.channel) (.lib name) oldChannelID newChannelID
          mover)).filterMap entryOf =
      relocation R.channel (R.nickname client) oldChannelID newChannelID := by
  obtain ⟨p, hp, htext⟩ := L.nickname s client
  rw [hp, Reply.result?_ok, Option.elim_some, filterMap_membershipReports, Str.text_lib, htext]

/-- A move the own client did not make is logged. -/
theorem log_serve (hmover : ¬ m.ByOwn) :
    (m.serve L place s).log =
      relocation R.channel (R.nickname m.client) (place m.client) m.newChannelID := by
  unfold Step.log Move.serve Move.callback
  rw [serve_trace]
  cases hm : m.mover with
  | none =>
    show (requests ((decideMove S m.client (place m.client) m.newChannelID).run L.handler
      s).trace).filterMap entryOf = _
    rw [L.knows.requests_move s _ m.other, filterMap_named]
  | some who =>
    obtain ⟨moverID, moverName⟩ := who
    have hne : moverID ≠ R.own := by
      intro heq
      exact hmover ⟨moverName, by rw [hm, heq]⟩
    show (requests ((decideMoved S m.client (place m.client) m.newChannelID moverID moverName).run
      L.handler s).trace).filterMap entryOf = _
    rw [L.knows.requests_moved_other s _ _ _ _ hne, filterMap_named]

/-- A move the own client made is not. -/
theorem log_serve_byOwn (hmover : m.ByOwn) :
    (m.serve L place s).log = [] := by
  obtain ⟨moverName, hm⟩ := hmover
  unfold Step.log Move.serve Move.callback
  rw [serve_trace, hm]
  show (requests ((decideMoved S m.client (place m.client) m.newChannelID R.own moverName).run
    L.handler s).trace).filterMap entryOf = _
  rw [L.knows.requests_moved_own s _ m.other]
  -- `notify_move`, or nothing: neither makes an entry
  cases (channelNameAnswer L.handler S _ m.newChannelID).1.result? with
  | none => rfl
  | some name => rfl

/-- The step: the log of one move leads from who was present to who is present
    now, unless the own client carried somebody across the border. -/
theorem replays_serve :
    Replays (R.present place) (m.serve L place s).log
        (R.present (Function.update place m.client m.newChannelID)) ↔
      (m.ByOwn → m.Within place) := by
  by_cases hmover : m.ByOwn
  · rw [log_serve_byOwn L m place s hmover, replays_nil, eq_comm]
    have hiff : R.present (Function.update place m.client m.newChannelID) = R.present place ↔
        m.Within place := presentAt_update_eq_iff R.distinct m.other
    rw [hiff]
    exact ⟨fun h _ => h, fun h => h hmover⟩
  · rw [log_serve L m place s hmover]
    exact iff_of_true (replays_relocation R.distinct m.other) (fun h => absurd h hmover)

end move

/-! ## Section 3: Runs -/

section runs

variable (L : RoomLibrary R S σ)

theorem membershipLog_cons (place : AnyID → UInt64) (m : Move R) (ms : List (Move R)) (s : σ) :
    membershipLog L place (m :: ms) s = (m.serve L place s).log ++
      membershipLog L (Function.update place m.client m.newChannelID) ms
        (m.serve L place s).after := rfl

theorem faithful_nil (place : AnyID → UInt64) (s : σ) : Faithful L place [] s := by
  intro done rest hsplit
  obtain ⟨rfl, -⟩ := List.append_eq_nil_iff.mp hsplit.symm
  rfl

/-- A run is faithful if its first step is and what follows is. -/
theorem faithful_cons (place : AnyID → UInt64) (m : Move R) (ms : List (Move R)) (s : σ) :
    Faithful L place (m :: ms) s ↔
      (m.ByOwn → m.Within place) ∧
        Faithful L (Function.update place m.client m.newChannelID) ms
          (m.serve L place s).after := by
  rw [← replays_serve L m place s]
  constructor
  · intro h
    have hm := h [m] ms rfl
    rw [membershipLog_cons] at hm
    obtain ⟨Y, hstep, hY⟩ := replays_append.mp hm
    cases (hY : Y = _)
    -- what follows starts where the first step leads
    refine ⟨hstep, ?_⟩
    intro done rest hsplit
    have hdone := h (m :: done) rest (by rw [hsplit]; rfl)
    rw [membershipLog_cons] at hdone
    obtain ⟨Z, hZ, hrest⟩ := replays_append.mp hdone
    cases hZ.unique hstep
    exact hrest
  · intro h done rest hsplit
    obtain ⟨hstep, hrest⟩ := h
    cases done with
    | nil => rfl
    | cons m' done =>
      obtain ⟨rfl, hms⟩ := List.cons.inj hsplit
      rw [membershipLog_cons]
      exact replays_append.mpr ⟨_, hstep, hrest done rest hms⟩

/-- **Membership replay.** The log of a run is faithful if and only if the own
    client never moves anybody into its channel or out of it. -/
theorem faithful_iff (place : AnyID → UInt64) (ms : List (Move R)) (s : σ) :
    Faithful L place ms s ↔
      ∀ done m rest, ms = done ++ m :: rest → m.ByOwn → m.Within (placeAfter place done) := by
  induction ms generalizing place s with
  | nil =>
    apply iff_of_true (faithful_nil L place s)
    intro done m rest hsplit
    simp at hsplit
  | cons m ms ih =>
    rw [faithful_cons, ih]
    constructor
    · intro h done m' rest hsplit
      obtain ⟨hm, hms⟩ := h
      cases done with
      | nil =>
        obtain ⟨rfl, -⟩ := List.cons.inj hsplit
        exact hm
      | cons m'' done =>
        obtain ⟨rfl, hrest⟩ := List.cons.inj hsplit
        exact hms done m' rest hrest
    · intro h
      have hm : m.ByOwn → m.Within place := h [] m ms rfl
      refine ⟨hm, ?_⟩
      intro done m' rest hsplit
      exact h (m :: done) m' rest (by rw [hsplit]; rfl)

end runs

/-- A room in which client `n` is called by `n` letters. -/
def lettersRoom : Room where
  own := 1
  channel := 10
  nickname id := ⟨List.replicate id.toNat 97, by simp [List.mem_replicate]⟩
  distinct := by
    intro a b h
    have hlength := congrArg CString.length h
    exact UInt16.toNat_inj.mp (by simpa [CString.length] using hlength)

def lettersLibrary : RoomLibrary lettersRoom 0 Unit where
  handler := ClientLib.handler (answering fun _ =>
    { ownID := 1
      channelOf := fun _ => 10
      nickname := fun c => ⟨0, lettersRoom.nickname c⟩
      channelName := fun _ => ⟨1, default⟩
      serverName := ⟨2, default⟩ })
  knows := knows_answering _ 0
  nickname := fun _ c => ⟨⟨0, lettersRoom.nickname c⟩, rfl, rfl⟩

/-- The own client moves client 2 from its channel to channel 20, and the
    departure is missing from the log. -/
theorem not_faithful_carry :
    ¬ ∀ (place : AnyID → UInt64) (ms : List (Move lettersRoom)),
      Faithful lettersLibrary place ms () := by
  intro h
  let carry : Move lettersRoom :=
    { client := 2
      other := by decide
      newChannelID := 20
      mover := some (1, CString.ofString "a")
      locals := default }
  have hcarry := ((faithful_cons _ _ _ _ _).mp (h (fun _ => 10) [carry])).1
  have hwithin : carry.Within (fun _ => 10) := hcarry ⟨CString.ofString "a", rfl⟩
  exact absurd (hwithin.mpr rfl) (by decide)

end TeamspeakNotifications
