import TeamspeakNotifications.Framework.CString

/-! # Blocks of memory

    An array of `n` bytes, read and written one byte at a time. A pointer into
    it is an offset, and an access that is not inside the array is a `Fault`.

    * `Block`: the array. That its size never changes is part of the type.
    * `load`, `store`, `write`, `scan`, `str`: one access, a run of stores, a
      loop that moves a pointer on, and what a callee reads at a `char *`.
    * `Block.At p bs`: the bytes `bs` stand at offset `p`. It splits where the
      bytes do.
    * `Outside`: two contents of a block agree but for one range. What stands
      next to the range is still there.
    * `Block.StrAt`: a C string stands at an offset. One rule for every access.
-/

namespace CLib

/-- What is undefined in C: an access outside of the object, and an `int` that
    exceeds its range. `outOfFuel` is no such thing, it stands for a loop that
    has not come to its end. -/
inductive Fault where
  | outOfBounds
  | signedOverflow
  | outOfFuel
  deriving DecidableEq

theorem ok_bind {α β : Type} (a : α) (f : α → Except Fault β) : (Except.ok a >>= f) = f a := rfl

/-- A `char[n]`. -/
@[ext] structure Block (n : Nat) where
  bytes : List UInt8
  size : bytes.length = n
  deriving DecidableEq

/-- The C string that begins the bytes: they are read up to the first NUL. -/
def CString.ofBytes (bs : List UInt8) : CString where
  bytes := bs.takeWhile (· != 0)
  noNul := by
    intro h
    have hne := List.mem_takeWhile_imp h
    simp at hne

/-! ## Section 1: Bytes up to a NUL -/

theorem takeWhile_ne_of_noNul {s : List UInt8} (h : 0 ∉ s) (rest : List UInt8) :
    (s ++ 0 :: rest).takeWhile (· != 0) = s := by
  have hne : ∀ c ∈ s, (c != 0) = true := by
    intro c hc
    have : c ≠ 0 := fun heq => h (heq ▸ hc)
    simpa using this
  rw [List.takeWhile_append_of_pos hne]
  simp

theorem CString.ofBytes_bytes {s : List UInt8} (h : 0 ∉ s) : (CString.ofBytes s).bytes = s := by
  show s.takeWhile (· != 0) = s
  refine List.takeWhile_eq_self_iff.mpr ?_
  intro c hc
  have : c ≠ 0 := fun heq => h (heq ▸ hc)
  simpa using this

theorem CString.ofBytes_append_nul {s : List UInt8} (h : 0 ∉ s) (rest : List UInt8) :
    CString.ofBytes (s ++ 0 :: rest) = CString.ofBytes s := by
  apply CString.ext
  rw [CString.ofBytes_bytes h]
  exact takeWhile_ne_of_noNul h rest

@[simp] theorem CString.ofBytes_of_bytes (s : CString) : CString.ofBytes s.bytes = s :=
  CString.ext (CString.ofBytes_bytes s.noNul)

/-! ## Section 2: Access -/

namespace Block

variable {n : Nat}

/-- `char block[n] = "";`. -/
def zero (n : Nat) : Block n := ⟨List.replicate n 0, List.length_replicate⟩

/-- `*p`. -/
def load (m : Block n) (p : Nat) : Except Fault UInt8 :=
  match m.bytes[p]? with
  | some c => .ok c
  | none => .error .outOfBounds

/-- `*p = c`. -/
def store (m : Block n) (p : Nat) (c : UInt8) : Except Fault (Block n) :=
  if p < n then .ok ⟨m.bytes.set p c, by rw [List.length_set, m.size]⟩
  else .error .outOfBounds

/-- `*p++ = c` for each of the bytes. -/
def write (m : Block n) (p : Nat) : List UInt8 → Except Fault (Block n)
  | [] => .ok m
  | c :: bs => do
    let m ← m.store p c
    m.write (p + 1) bs

/-- How far a loop `while (..*s..) s++` goes over the bytes from `s` on. `step`
    is the test and what the loop remembers of a byte; it stops at `none`. -/
def scanBytes {β : Type} (step : β → UInt8 → Option β) : β → List UInt8 → Except Fault Nat
  | _, [] => .error .outOfBounds
  | b, c :: cs =>
    match step b c with
    | none => .ok 0
    | some b => (· + 1) <$> scanBytes step b cs

/-- The pointer such a loop ends with. -/
def scan {β : Type} (m : Block n) (s : Nat) (step : β → UInt8 → Option β) (b : β) :
    Except Fault Nat :=
  (s + ·) <$> scanBytes step b (m.bytes.drop s)

/-- The loop of `strlen` and of all that read a string: up to the NUL. -/
def untilNul (_ : Unit) (c : UInt8) : Option Unit := if c = 0 then none else some ()

/-- `strlen(p)`. -/
def strlen (m : Block n) (p : Nat) : Except Fault Nat :=
  scanBytes untilNul () (m.bytes.drop p)

/-- The string a callee finds at `p`. -/
def str (m : Block n) (p : Nat) : Except Fault CString := do
  let _ ← m.strlen p
  return .ofBytes (m.bytes.drop p)

end Block

/-! ## Section 3: What stands where -/

namespace Block

variable {n : Nat}

/-- The bytes `bs` stand at offset `p`. -/
def At (m : Block n) (p : Nat) (bs : List UInt8) : Prop :=
  ∀ k (h : k < bs.length), m.bytes[p + k]? = some (bs[k])

@[simp] theorem at_nil (m : Block n) (p : Nat) : m.At p [] := by
  intro k h
  exact absurd h (Nat.not_lt_zero k)

theorem at_cons {m : Block n} {p : Nat} {c : UInt8} {bs : List UInt8} :
    m.At p (c :: bs) ↔ m.bytes[p]? = some c ∧ m.At (p + 1) bs := by
  constructor
  · intro h
    refine ⟨h 0 (Nat.succ_pos _), ?_⟩
    intro k hk
    have hnext := h (k + 1) (Nat.succ_lt_succ hk)
    rw [show p + 1 + k = p + (k + 1) from by omega]
    exact hnext
  · intro h k hk
    rcases k with _ | k
    · exact h.1
    · have hnext := h.2 k (Nat.lt_of_succ_lt_succ hk)
      rw [show p + (k + 1) = p + 1 + k from by omega]
      exact hnext

/-- The bytes split anywhere. -/
theorem at_append {m : Block n} {p : Nat} {bs cs : List UInt8} :
    m.At p (bs ++ cs) ↔ m.At p bs ∧ m.At (p + bs.length) cs := by
  induction bs generalizing p with
  | nil => simp
  | cons c bs ih =>
    rw [List.cons_append, at_cons, ih, at_cons, and_assoc, List.length_cons,
      show p + 1 + bs.length = p + (bs.length + 1) from by omega]

theorem At.lt {m : Block n} {p : Nat} {c : UInt8} (h : m.At p [c]) : p < n := by
  have hp : m.bytes[p]? = some c := (at_cons.mp h).1
  have hlt := (List.getElem?_eq_some_iff.mp hp).1
  rwa [m.size] at hlt

theorem At.load {m : Block n} {p : Nat} {c : UInt8} {bs : List UInt8} (h : m.At p (c :: bs)) :
    m.load p = .ok c := by
  unfold Block.load
  rw [(at_cons.mp h).1]

/-- What stands at `p` is how the bytes from `p` on begin. -/
theorem At.drop_eq {m : Block n} {p : Nat} {bs : List UInt8} (h : m.At p bs) :
    m.bytes.drop p = bs ++ m.bytes.drop (p + bs.length) := by
  induction bs generalizing p with
  | nil => rfl
  | cons c bs ih =>
    obtain ⟨hc, hbs⟩ := at_cons.mp h
    obtain ⟨hlt, hget⟩ := List.getElem?_eq_some_iff.mp hc
    rw [List.drop_eq_getElem_cons hlt, hget, ih hbs, List.length_cons, List.cons_append,
      show p + 1 + bs.length = p + (bs.length + 1) from by omega]

/-- Every byte of a block that holds `n` of them stands somewhere. -/
theorem at_zero (k : Nat) (h : k ≤ n) : (zero n).At 0 (List.replicate k 0) := by
  intro i hi
  rw [List.length_replicate] at hi
  show (List.replicate n (0 : UInt8))[0 + i]? = some (List.replicate k (0 : UInt8))[i]
  rw [Nat.zero_add, List.getElem_replicate, List.getElem?_replicate, if_pos (by omega)]

end Block

/-- The two contents differ at most in the `k` bytes from `p` on. -/
def Outside {n : Nat} (p k : Nat) (m m' : Block n) : Prop :=
  ∀ i, i < p ∨ p + k ≤ i → m'.bytes[i]? = m.bytes[i]?

namespace Outside

variable {n p k : Nat} {m m' m'' : Block n}

theorem refl (p k : Nat) (m : Block n) : Outside p k m m := by
  intro i _
  rfl

theorem trans (h : Outside p k m m') (h' : Outside p k m' m'') : Outside p k m m'' := by
  intro i hi
  rw [h' i hi, h i hi]

/-- The range may be given larger than it is. -/
theorem mono {q l : Nat} (h : Outside p k m m') (hq : q ≤ p) (hl : p + k ≤ q + l) :
    Outside q l m m' := by
  intro i hi
  exact h i (by omega)

/-- **Frame.** What stands before or after the range is still there. -/
theorem frame {q : Nat} {bs : List UInt8} (h : Outside p k m m')
    (hq : q + bs.length ≤ p ∨ p + k ≤ q) (hbs : m.At q bs) : m'.At q bs := by
  intro i hi
  rw [h (q + i) (by omega)]
  exact hbs i hi

/-- A byte in front of the range, and what the range holds. -/
theorem cons {c : UInt8} {bs : List UInt8} (h : Outside (p + 1) k m m') (hc : m.At p [c])
    (hbs : m'.At (p + 1) bs) : m'.At p (c :: bs) := by
  have hframed : m'.At p [c] := h.frame (Or.inl (Nat.le_refl _)) hc
  exact Block.at_cons.mpr ⟨(Block.at_cons.mp hframed).1, hbs⟩

end Outside

/-! ## Section 4: Rules for access -/

namespace Block

variable {n : Nat}

theorem store_ok {m : Block n} {p : Nat} (c : UInt8) (h : p < n) :
    ∃ m', m.store p c = .ok m' ∧ m'.At p [c] ∧ Outside p 1 m m' := by
  refine ⟨⟨m.bytes.set p c, by rw [List.length_set, m.size]⟩, if_pos h, ?_, ?_⟩
  · rw [at_cons]
    refine ⟨?_, at_nil _ _⟩
    show (m.bytes.set p c)[p]? = some c
    rw [List.getElem?_set_self (by rw [m.size]; exact h)]
  · intro i hi
    show (m.bytes.set p c)[i]? = m.bytes[i]?
    rw [List.getElem?_set_ne (by omega)]

theorem write_ok {m : Block n} {p : Nat} (bs : List UInt8) (h : p + bs.length ≤ n) :
    ∃ m', m.write p bs = .ok m' ∧ m'.At p bs ∧ Outside p bs.length m m' := by
  induction bs generalizing p m with
  | nil => exact ⟨m, rfl, at_nil m p, Outside.refl p 0 m⟩
  | cons c bs ih =>
    rw [List.length_cons] at h
    obtain ⟨m₁, hstore, hat, hout⟩ := store_ok (m := m) (p := p) c (by omega)
    obtain ⟨m₂, hwrite, hat', hout'⟩ := ih (m := m₁) (p := p + 1) (by omega)
    refine ⟨m₂, ?_, ?_, ?_⟩
    · show (m.store p c >>= fun m => m.write (p + 1) bs) = .ok m₂
      rw [hstore]
      exact hwrite
    · exact hout'.cons hat hat'
    · rw [List.length_cons]
      exact (hout.mono (Nat.le_refl p) (by omega)).trans (hout'.mono (by omega) (by omega))

end Block

/-! ## Section 5: Strings in a block -/

/-- A loop over a string: the bytes it has passed when it stops, and the rest. -/
def walk {β : Type} (step : β → UInt8 → Option β) : β → List UInt8 → List UInt8 × List UInt8
  | _, [] => ([], [])
  | b, c :: cs =>
    match step b c with
    | none => ([], c :: cs)
    | some b => (c :: (walk step b cs).1, (walk step b cs).2)

@[simp] theorem walk_nil {β : Type} (step : β → UInt8 → Option β) (b : β) :
    walk step b [] = ([], []) := rfl

theorem walk_cons_of_none {β : Type} {step : β → UInt8 → Option β} {b : β} {c : UInt8}
    (h : step b c = none) (cs : List UInt8) : walk step b (c :: cs) = ([], c :: cs) := by
  unfold walk
  rw [h]

theorem walk_cons_of_some {β : Type} {step : β → UInt8 → Option β} {b b' : β} {c : UInt8}
    (h : step b c = some b') (cs : List UInt8) :
    walk step b (c :: cs) = (c :: (walk step b' cs).1, (walk step b' cs).2) := by
  simp only [walk, h]

@[simp] theorem walk_append {β : Type} (step : β → UInt8 → Option β) (b : β) (s : List UInt8) :
    (walk step b s).1 ++ (walk step b s).2 = s := by
  induction s generalizing b with
  | nil => rfl
  | cons c s ih =>
    unfold walk
    rcases step b c with _ | b'
    · rfl
    · exact congrArg (c :: ·) (ih b')

/-- The loop passes all of the string. -/
def Passes {β : Type} (step : β → UInt8 → Option β) (b : β) (s : List UInt8) : Prop :=
  walk step b s = (s, [])

theorem passes_cons {β : Type} {step : β → UInt8 → Option β} {b : β} {c : UInt8}
    {s : List UInt8} : Passes step b (c :: s) ↔ ∃ b', step b c = some b' ∧ Passes step b' s := by
  unfold Passes
  rcases hc : step b c with _ | b'
  · rw [walk_cons_of_none hc]
    simp
  · rw [walk_cons_of_some hc]
    simp [Prod.ext_iff]

/-- What a loop has passed, it passes again. -/
theorem passes_walk {β : Type} (step : β → UInt8 → Option β) (b : β) (s : List UInt8) :
    Passes step b (walk step b s).1 := by
  induction s generalizing b with
  | nil => rfl
  | cons c s ih =>
    rcases hc : step b c with _ | b'
    · rw [walk_cons_of_none hc]
      rfl
    · rw [walk_cons_of_some hc]
      exact passes_cons.mpr ⟨b', hc, ih b'⟩

theorem Passes.of_append {β : Type} {step : β → UInt8 → Option β} {b : β} {s t : List UInt8}
    (h : Passes step b (s ++ t)) : Passes step b s := by
  induction s generalizing b with
  | nil => rfl
  | cons c s ih =>
    obtain ⟨b', hc, hrest⟩ := passes_cons.mp h
    exact passes_cons.mpr ⟨b', hc, ih hrest⟩

/-- After a string that it passes, the loop goes on with what it remembers. -/
theorem Passes.walk_append {β : Type} {step : β → UInt8 → Option β} {b : β} {s : List UInt8}
    (h : Passes step b s) : ∃ b', ∀ t,
      walk step b (s ++ t) = (s ++ (walk step b' t).1, (walk step b' t).2) := by
  induction s generalizing b with
  | nil => exact ⟨b, fun t => rfl⟩
  | cons c s ih =>
    obtain ⟨b₁, hc, hrest⟩ := passes_cons.mp h
    obtain ⟨b', hwalk⟩ := ih hrest
    refine ⟨b', ?_⟩
    intro t
    rw [List.cons_append, walk_cons_of_some hc, hwalk t]
    rfl

theorem Passes.append {β : Type} {step : β → UInt8 → Option β} {b : β} {s t : List UInt8}
    (h : Passes step b s) (ht : ∀ b, Passes step b t) : Passes step b (s ++ t) := by
  obtain ⟨b', hwalk⟩ := h.walk_append
  have hend : walk step b' t = (t, []) := ht b'
  unfold Passes
  rw [hwalk t, hend]

/-- After a string that it passes, the loop stops at a byte it always stops at. -/
theorem Passes.walk_stop {β : Type} {step : β → UInt8 → Option β} {b : β} {s : List UInt8}
    (h : Passes step b s) {c : UInt8} (hc : ∀ b, step b c = none) (t : List UInt8) :
    walk step b (s ++ c :: t) = (s, c :: t) := by
  obtain ⟨b', hwalk⟩ := h.walk_append
  rw [hwalk, walk_cons_of_none (hc b'), List.append_nil]

/-- A loop that stops at the NUL stops in the string or at its end. -/
theorem scanBytes_of_walk {β : Type} {step : β → UInt8 → Option β}
    (hstep : ∀ b, step b 0 = none) (b : β) (s rest : List UInt8) :
    Block.scanBytes step b (s ++ 0 :: rest) = .ok (walk step b s).1.length := by
  induction s generalizing b with
  | nil =>
    show Block.scanBytes step b (0 :: rest) = .ok 0
    simp only [Block.scanBytes, hstep]
  | cons c s ih =>
    rw [List.cons_append]
    unfold Block.scanBytes walk
    rcases step b c with _ | b'
    · rfl
    · dsimp only
      rw [ih b']
      rfl

theorem walk_untilNul {s : List UInt8} (h : 0 ∉ s) : walk Block.untilNul () s = (s, []) := by
  induction s with
  | nil => rfl
  | cons c s ih =>
    rw [List.mem_cons, not_or] at h
    have hc : ¬ c = 0 := fun heq => h.1 heq.symm
    rw [walk_cons_of_some (if_neg hc), ih h.2]

namespace Block

variable {n : Nat}

/-- The string `s` stands at offset `p`, with its NUL. -/
structure StrAt (m : Block n) (p : Nat) (s : List UInt8) : Prop where
  noNul : 0 ∉ s
  bytes_at : m.At p (s ++ [0])

namespace StrAt

variable {m : Block n} {p : Nat} {s : List UInt8}

/-- The terminator is inside the block. -/
theorem lt (h : m.StrAt p s) : p + s.length < n := (at_append.mp h.bytes_at).2.lt

theorem drop_eq (h : m.StrAt p s) :
    m.bytes.drop p = s ++ 0 :: m.bytes.drop (p + s.length + 1) := by
  rw [h.bytes_at.drop_eq, List.append_assoc, List.length_append]
  rfl

theorem load (h : m.StrAt p s) : m.load p = .ok (s.headD 0) := by
  have hat := h.bytes_at
  rcases s with _ | ⟨c, s⟩
  · exact At.load hat
  · exact At.load hat

theorem strlen (h : m.StrAt p s) : m.strlen p = .ok s.length := by
  unfold Block.strlen
  rw [h.drop_eq, scanBytes_of_walk (fun _ => rfl), walk_untilNul h.noNul]

theorem str (h : m.StrAt p s) : m.str p = .ok (.ofBytes s) := by
  unfold Block.str
  rw [h.strlen, h.drop_eq, CString.ofBytes_append_nul h.noNul]
  rfl

theorem scan {β : Type} (step : β → UInt8 → Option β) (h : m.StrAt p s)
    (hstep : ∀ b, step b 0 = none) (b : β) :
    m.scan p step b = .ok (p + (walk step b s).1.length) := by
  unfold Block.scan
  rw [h.drop_eq, scanBytes_of_walk hstep]
  rfl

/-- A pointer into a string points at its rest. -/
theorem drop {a : List UInt8} (h : m.StrAt p (a ++ s)) : m.StrAt (p + a.length) s := by
  refine ⟨fun h0 => h.noNul (List.mem_append_right a h0), ?_⟩
  have hat := h.bytes_at
  rw [List.append_assoc] at hat
  exact (at_append.mp hat).2

/-- What is written elsewhere leaves the string. -/
theorem frame {m' : Block n} {q k : Nat} (h : m.StrAt p s) (hout : Outside q k m m')
    (hq : p + s.length < q ∨ q + k ≤ p) : m'.StrAt p s := by
  refine ⟨h.noNul, hout.frame ?_ h.bytes_at⟩
  rw [List.length_append, List.length_singleton]
  omega

/-- A NUL over a byte of the string makes two strings of it. -/
theorem cut {a b : List UInt8} {c : UInt8} (h : m.StrAt p (a ++ c :: b)) :
    ∃ m', m.store (p + a.length) 0 = .ok m' ∧ m'.StrAt p a ∧
      m'.StrAt (p + a.length + 1) b ∧ Outside (p + a.length) 1 m m' := by
  have hlt := h.lt
  rw [List.length_append, List.length_cons] at hlt
  obtain ⟨m', hstore, hnul, hout⟩ := store_ok (m := m) (p := p + a.length) 0 (by omega)
  have hat := h.bytes_at
  rw [List.append_assoc, at_append, List.cons_append, at_cons] at hat
  have ha : 0 ∉ a := fun h0 => h.noNul (List.mem_append_left _ h0)
  have hb : 0 ∉ b := fun h0 => h.noNul (List.mem_append_right a (List.mem_cons_of_mem c h0))
  refine ⟨m', hstore, ⟨ha, ?_⟩, ⟨hb, ?_⟩, hout⟩
  · exact at_append.mpr ⟨hout.frame (Or.inl (Nat.le_refl _)) hat.1, hnul⟩
  · exact hout.frame (Or.inr (Nat.le_refl _)) hat.2.2

/-- A NUL at an offset makes it an empty string. -/
theorem store_nul (m : Block n) (h : p < n) :
    ∃ m', m.store p 0 = .ok m' ∧ m'.StrAt p [] := by
  obtain ⟨m', hstore, hnul, _⟩ := store_ok (m := m) (p := p) 0 h
  exact ⟨m', hstore, ⟨List.not_mem_nil, hnul⟩⟩

/-- Bytes with a NUL after them are a string, which ends at the first NUL. -/
theorem of_bytes {bs : List UInt8} (h : m.At p (bs ++ [0])) :
    m.StrAt p (CString.ofBytes bs).bytes := by
  refine ⟨(CString.ofBytes bs).noNul, ?_⟩
  by_cases h0 : 0 ∈ bs
  · obtain ⟨a, b, rfl, ha⟩ := List.eq_append_cons_of_mem h0
    rw [CString.ofBytes_append_nul ha, CString.ofBytes_bytes ha]
    rw [show a ++ 0 :: b ++ [0] = a ++ [0] ++ (b ++ [0]) from by simp] at h
    exact (at_append.mp h).1
  · rw [CString.ofBytes_bytes h0]
    exact h

end StrAt

end Block

end CLib
