import TeamspeakNotifications.Model.IniFormat

/-! # The parser reads the format

    `ini.c` works in place: it cuts the line buffer with NULs and moves pointers
    through it. Here every function of it is related to its counterpart on
    byte strings, and the loop to the reading of the whole text.

    * `rstrip_ok` .. `strncpy0_ok`: the helpers stay inside their buffers.
    * `Rel`: the buffers hold the context that the next line is read in.
    * `parse_line_ok`: one turn of the loop reads one line.
    * `parse_lines_ok`: the whole loop, for every reader that delivers the lines.
-/

namespace Inih

open CLib TeamspeakNotifications

/-! ## Section 1: Strings without a NUL -/

theorem trimRight_append (s t : List UInt8) (ht : ∀ c ∈ t, isspace c = true) :
    trimRight (s ++ t) = trimRight s := by
  unfold trimRight List.rdropWhile
  rw [List.reverse_append, List.dropWhile_append_of_pos]
  intro c hc
  exact ht c (List.mem_reverse.mp hc)

theorem trimRight_concat_of_space {c : UInt8} (hc : isspace c = true) (s : List UInt8) :
    trimRight (s ++ [c]) = trimRight s := List.rdropWhile_concat_pos isspace s c hc

theorem trimRight_concat_of_not {c : UInt8} (hc : ¬ isspace c = true) (s : List UInt8) :
    trimRight (s ++ [c]) = s ++ [c] := List.rdropWhile_concat_neg isspace s c hc

/-- What a pointer points at is no NUL: the string has a first byte. -/
theorem exists_cons_of_headD {s : List UInt8} (h : s.headD 0 ≠ 0) : ∃ c t, s = c :: t := by
  rcases s with _ | ⟨c, t⟩
  · exact absurd rfl h
  · exact ⟨c, t, rfl⟩

/-- The string a pointer points at, in terms of the loop that moved it. -/
theorem strAt_walk {n : Nat} {m : Block n} {p : Nat} {s : List UInt8} {β : Type}
    (step : β → UInt8 → Option β) (b : β) (h : m.StrAt p s) :
    m.StrAt (p + (walk step b s).1.length) (walk step b s).2 := by
  have hsplit := walk_append step b s
  rw [← hsplit] at h
  exact h.drop

theorem walk_lskipStep (s : List UInt8) :
    walk lskipStep () s = (s.takeWhile isspace, trimLeft s) := by
  unfold trimLeft
  induction s with
  | nil => rfl
  | cons c s ih =>
    by_cases hc : isspace c = true
    · have hne : c ≠ 0 := by
        rintro rfl
        exact absurd hc (by decide)
      have hstep : lskipStep () c = some () := if_pos ⟨hne, hc⟩
      rw [walk_cons_of_some hstep, ih, List.takeWhile_cons_of_pos hc,
        List.dropWhile_cons_of_pos hc]
    · have hstep : lskipStep () c = none := if_neg (fun h => hc h.2)
      rw [walk_cons_of_none hstep, List.takeWhile_cons_of_neg hc,
        List.dropWhile_cons_of_neg hc]

theorem upTo_append (chars : Option CString) (s : List UInt8) :
    (upTo chars s).1 ++ (upTo chars s).2 = s := walk_append (findStep chars) false s

/-! ## Section 2: The helpers -/

section helpers

variable {n : Nat} {m : Block n} {p : Nat} {s : List UInt8}

/-- The loop of `rstrip`, by induction on the string from its end. -/
theorem rstripLoop_ok (h : m.StrAt p s) :
    ∃ m', rstripLoop m p (p + s.length) = .ok m' ∧ m'.StrAt p (trimRight s) ∧
      Outside p s.length m m' := by
  induction s using List.reverseRecOn generalizing m with
  | nil =>
    refine ⟨m, ?_, h, Outside.refl p _ m⟩
    rcases p with _ | p
    · rfl
    · show (if p + 1 < p + 1 then _ else Except.ok m) = .ok m
      exact if_neg (Nat.lt_irrefl _)
  | append_singleton s c ih =>
    have hload : m.load (p + s.length) = .ok c := by
      have hlast : m.StrAt (p + s.length) [c] := h.drop
      exact hlast.load
    have hpos : p < p + s.length + 1 := by omega
    rw [List.length_append, List.length_singleton, ← Nat.add_assoc]
    unfold rstripLoop
    rw [if_pos hpos, hload, ok_bind]
    by_cases hc : isspace c = true
    · -- the last byte is overwritten, and the loop goes on in front of it
      obtain ⟨m₁, hstore, hcut, _, hout⟩ := h.cut
      obtain ⟨m', hloop, hat, hout'⟩ := ih hcut
      refine ⟨m', ?_, ?_, ?_⟩
      · rw [if_pos hc, hstore, ok_bind, hloop]
      · rw [trimRight_concat_of_space hc]
        exact hat
      · exact (hout.mono (by omega) (by omega)).trans (hout'.mono (Nat.le_refl p) (by omega))
    · refine ⟨m, ?_, ?_, Outside.refl _ _ m⟩
      · rw [if_neg hc]
        rfl
      · rw [trimRight_concat_of_not hc]
        exact h

theorem rstrip_ok (h : m.StrAt p s) :
    ∃ m', rstrip m p = .ok m' ∧ m'.StrAt p (trimRight s) ∧ Outside p s.length m m' := by
  obtain ⟨m', hloop, hat, hout⟩ := rstripLoop_ok h
  refine ⟨m', ?_, hat, hout⟩
  unfold rstrip
  rw [h.strlen, ok_bind, hloop]

theorem lskip_ok (h : m.StrAt p s) :
    ∃ q, lskip m p = .ok q ∧ m.StrAt q (trimLeft s) ∧ q + (trimLeft s).length = p + s.length := by
  have hscan := h.scan lskipStep (fun _ => rfl) ()
  have hrest := strAt_walk lskipStep () h
  rw [walk_lskipStep] at hscan hrest
  refine ⟨_, hscan, hrest, ?_⟩
  have hlen := congrArg List.length (List.takeWhile_append_dropWhile (p := isspace) (l := s))
  rw [List.length_append] at hlen
  unfold trimLeft
  dsimp only
  omega

theorem find_chars_or_comment_ok (chars : Option CString) (h : m.StrAt p s) :
    find_chars_or_comment m p chars = .ok (p + (upTo chars s).1.length) ∧
      m.StrAt (p + (upTo chars s).1.length) (upTo chars s).2 := by
  have hstop : ∀ b, findStep chars b 0 = none := fun b => if_neg (fun h => h.1 rfl)
  exact ⟨h.scan _ hstop false, strAt_walk (findStep chars) false h⟩

theorem begins_ok {bs : List UInt8} (hbs : 0 ∉ bs) (h : m.StrAt p s) :
    begins m p bs = .ok (bs.isPrefixOf s) := by
  induction bs generalizing p s with
  | nil => rfl
  | cons b bs ih =>
    rw [List.mem_cons, not_or] at hbs
    unfold begins
    rw [h.load, ok_bind]
    rcases s with _ | ⟨c, s⟩
    · -- the NUL is no byte of the pattern
      rw [if_neg (show ¬ ([] : List UInt8).headD 0 = b from hbs.1)]
      rfl
    · by_cases hc : c = b
      · rw [if_pos (show (c :: s).headD 0 = b from hc)]
        have hrest : m.StrAt (p + 1) s := h.drop (a := [c])
        rw [ih hbs.2 hrest, hc]
        simp
      · rw [if_neg (show ¬ (c :: s).headD 0 = b from hc)]
        have hne : (b == c) = false := by simpa using fun heq => hc heq.symm
        simp [List.isPrefixOf, hne]
        rfl

/-- `strncpy` copies at most `size` bytes and fills up with NULs. -/
theorem strncpy_ok {k i size : Nat} (dest : Block k) (h : m.StrAt p s) (hsize : i + size ≤ k) :
    ∃ d, strncpy dest i m p size = .ok d ∧
      d.At i (s.take size ++ List.replicate (size - s.length) 0) ∧ Outside i size dest d := by
  induction size generalizing dest i p s with
  | zero => exact ⟨dest, rfl, by simp, Outside.refl _ _ _⟩
  | succ size ih =>
    unfold strncpy
    rw [h.load, ok_bind]
    rcases s with _ | ⟨c, s⟩
    · -- the source has ended: NULs up to the size
      obtain ⟨d, hwrite, hat, hout⟩ := Block.write_ok (m := dest) (p := i)
        (List.replicate (size + 1) 0) (by rw [List.length_replicate]; exact hsize)
      rw [List.length_replicate] at hout
      exact ⟨d, by rw [if_pos (show ([] : List UInt8).headD 0 = 0 from rfl), hwrite], hat, hout⟩
    · have hc : ¬ c = 0 := fun heq => h.noNul (by rw [heq]; exact List.mem_cons_self)
      have hrest : m.StrAt (p + 1) s := h.drop (a := [c])
      obtain ⟨d₁, hstore, hat₁, hout₁⟩ := Block.store_ok (m := dest) (p := i) c (by omega)
      obtain ⟨d, hcopy, hat, hout⟩ := ih d₁ hrest (show i + 1 + size ≤ k by omega)
      refine ⟨d, ?_, ?_, ?_⟩
      · rw [if_neg (show ¬ (c :: s).headD 0 = 0 from hc)]
        show (dest.store i c >>= _) = _
        rw [hstore, ok_bind, hcopy]
      · rw [List.take_succ_cons, List.cons_append, List.length_cons, Nat.add_sub_add_right]
        exact hout.cons hat₁ hat
      · exact (hout₁.mono (Nat.le_refl i) (by omega)).trans (hout.mono (by omega) (by omega))

/-- The copy is cut where the buffer ends. -/
theorem strncpy0_ok {size : Nat} (dest : Block size) (hsize : 0 < size) (h : m.StrAt p s) :
    ∃ d, strncpy0 dest m p size = .ok d ∧ d.StrAt 0 (s.take (size - 1)) := by
  obtain ⟨k, rfl⟩ := Nat.exists_eq_add_one.mpr hsize
  rw [Nat.add_sub_cancel]
  obtain ⟨d₁, hcopy, hat, _⟩ := strncpy_ok dest h (show 0 + k ≤ k + 1 by omega)
  obtain ⟨d, hstore, hnul, hout⟩ := Block.store_ok (m := d₁) (p := k) 0 (by omega)
  have htake : 0 ∉ s.take k := fun h0 => h.noNul (List.mem_of_mem_take h0)
  refine ⟨d, ?_, htake, ?_⟩
  · unfold strncpy0
    rw [Nat.add_sub_cancel, hcopy, ok_bind, hstore]
  · obtain ⟨hbytes, hfill⟩ := Block.at_append.mp hat
    rw [Block.at_append]
    have hlen : (s.take k).length = min k s.length := List.length_take
    refine ⟨hout.frame (by omega) hbytes, ?_⟩
    by_cases hshort : s.length < k
    · -- the terminator is one of the NULs that fill the buffer
      obtain ⟨r, hr⟩ : ∃ r, k - s.length = r + 1 := ⟨k - s.length - 1, by omega⟩
      rw [hr, List.replicate_succ, Block.at_cons] at hfill
      have hone : d₁.At (0 + (s.take k).length) [0] := Block.at_cons.mpr ⟨hfill.1, by simp⟩
      refine hout.frame (Or.inl ?_) hone
      rw [List.length_singleton]
      omega
    · rw [show 0 + (s.take k).length = k by omega]
      exact hnul

/-- Where a loop stopped at a byte, the string is cut in two there; where it came
    to the end, nothing is to be cut. -/
theorem clip_ok {s t : List UInt8} (h : m.StrAt p (s ++ t)) :
    ∃ m', clip m (p + s.length) = .ok m' ∧ m'.StrAt p s ∧ Outside (p + s.length) 1 m m' := by
  have htail : m.StrAt (p + s.length) t := h.drop
  unfold clip
  rw [htail.load, ok_bind]
  rcases t with _ | ⟨c, t⟩
  · rw [List.append_nil] at h
    exact ⟨m, if_neg (fun hne => hne rfl), h, Outside.refl _ _ m⟩
  · have hc : (c :: t).headD 0 ≠ 0 := by
      intro heq
      refine h.noNul (List.mem_append_right s ?_)
      rw [show c = 0 from heq]
      exact List.mem_cons_self
    obtain ⟨m', hstore, hcut, _, hout⟩ := h.cut
    exact ⟨m', by rw [if_pos hc, hstore], hcut, hout⟩

end helpers

/-! ## Section 3: One turn of the loop -/

section turn

variable {σ : Type} {handler : Handler σ} {s : Locals σ} {ctx : Context}

/-- The buffers hold the context. There is no name before the first line. -/
structure Rel (s : Locals σ) (ctx : Context) : Prop where
  section_at : s.section_.StrAt 0 ctx.section_
  prev_name_at : s.prev_name.StrAt 0 ctx.prev_name
  first : s.lineno = 0 → ctx.prev_name = []

/-- `s'` is where a line leaves the parser, if it says `r.2` and leaves the
    context `r.1` to the next. -/
structure Turn (handler : Handler σ) (s s' : Locals σ) (r : Context × Line) : Prop where
  section_at : s'.section_.StrAt 0 r.1.section_
  prev_name_at : s'.prev_name.StrAt 0 r.1.prev_name
  lineno : s'.lineno = s.lineno
  user : s'.user = (judge handler s.user r.2).2
  error : s'.error =
    if (judge handler s.user r.2).1 ∧ s.error = 0 then s.lineno else s.error

/-- A line that says nothing reports nothing. -/
theorem judge_silent {s s' : Locals σ} (herror : s'.error = s.error) :
    s'.error = if (judge handler s.user .silent).1 ∧ s.error = 0 then s.lineno else s.error := by
  have hgood : ¬ ((judge handler s.user .silent).1 ∧ s.error = 0) := fun h => absurd h.1 (by simp [judge])
  rw [if_neg hgood, herror]

theorem Turn.silent (h : Rel s ctx) : Turn handler s s (ctx, .silent) :=
  ⟨h.section_at, h.prev_name_at, rfl, rfl, judge_silent rfl⟩

theorem Turn.malformed (h : Rel s ctx) : Turn handler s s.fail (ctx, .malformed) := by
  refine ⟨h.section_at, h.prev_name_at, rfl, rfl, ?_⟩
  show (if s.error = 0 then s.lineno else s.error) = _
  simp [judge]

/-- A call of the handler, when the buffers hold what it leaves. -/
theorem Turn.call (handler : Handler σ) {section_ prev_name : List UInt8} (name value : CString)
    (hsection : s.section_.StrAt 0 section_) (hprev : s.prev_name.StrAt 0 prev_name) :
    ∃ s', s.call handler name value = .ok s' ∧
      Turn handler s s' (⟨section_, prev_name⟩, .pair ⟨.ofBytes section_, name, value⟩) := by
  unfold Locals.call
  rw [hsection.str, ok_bind]
  refine ⟨_, rfl, ?_⟩
  by_cases hres : (handler s.user (.ofBytes section_) name value).1 = 0
  · rw [if_pos hres]
    refine ⟨hsection, hprev, rfl, rfl, ?_⟩
    show (if s.error = 0 then s.lineno else s.error) = _
    simp [judge, hres]
  · rw [if_neg hres]
    refine ⟨hsection, hprev, rfl, rfl, ?_⟩
    show s.error = _
    simp [judge, hres]

theorem continuation_line_ok {start : Nat} {body : List UInt8} (h : Rel s ctx)
    (hbody : s.line.StrAt start body) :
    ∃ s', continuation_line handler s start = .ok s' ∧
      Turn handler s s'
        (ctx, .pair ⟨.ofBytes ctx.section_, .ofBytes ctx.prev_name, .ofBytes body⟩) := by
  unfold continuation_line
  rw [h.prev_name_at.str, ok_bind, hbody.str, ok_bind]
  exact Turn.call handler _ _ h.section_at h.prev_name_at

theorem section_line_ok {start : Nat} {rest : List UInt8} (h : Rel s ctx)
    (hbody : s.line.StrAt start (91 :: rest)) :
    ∃ s', section_line s start = .ok s' ∧ Turn handler s s' (readSection ctx rest) := by
  have hrest : s.line.StrAt (start + 1) rest := hbody.drop (a := [91])
  obtain ⟨hfind, hend⟩ := find_chars_or_comment_ok (some (CString.ofString "]")) hrest
  have hsplit := upTo_append (some (CString.ofString "]")) rest
  unfold section_line readSection
  rw [hfind, ok_bind, hend.load, ok_bind]
  generalize upTo (some (CString.ofString "]")) rest = cut at hsplit hend ⊢
  obtain ⟨title, tail⟩ := cut
  dsimp only at hsplit hend ⊢
  by_cases hclose : tail.headD 0 = 93
  · obtain ⟨c, tail, rfl⟩ := exists_cons_of_headD (s := tail) (by rw [hclose]; decide)
    rw [← hsplit] at hrest
    -- the bracket is overwritten, the title copied, and the last name forgotten
    obtain ⟨line, hstore, htitle, _, _⟩ := hrest.cut
    obtain ⟨section_, hcopy, hsection⟩ := strncpy0_ok s.section_ (by decide) htitle
    obtain ⟨prev_name, hclear, hprev⟩ :=
      Block.StrAt.store_nul (p := 0) s.prev_name (show 0 < MAX_NAME by decide)
    refine ⟨{ s with line, section_, prev_name }, ?_, ?_⟩
    · rw [if_pos hclose, hstore, ok_bind, hcopy, ok_bind, hclear, ok_bind]
      rfl
    · rw [if_pos hclose]
      exact ⟨hsection, hprev, rfl, rfl, judge_silent rfl⟩
  · refine ⟨s.fail, ?_, ?_⟩
    · rw [if_neg hclose]
      rfl
    · rw [if_neg hclose]
      exact Turn.malformed h

theorem pair_line_ok {start : Nat} {body : List UInt8} (h : Rel s ctx)
    (hbody : s.line.StrAt start body) :
    ∃ s', pair_line handler s start = .ok s' ∧ Turn handler s s' (readPair ctx body) := by
  obtain ⟨hfind, hend⟩ := find_chars_or_comment_ok (some (CString.ofString "=:")) hbody
  have hsplit := upTo_append (some (CString.ofString "=:")) body
  unfold pair_line readPair
  rw [hfind, ok_bind, hend.load, ok_bind]
  generalize upTo (some (CString.ofString "=:")) body = cut at hsplit hend ⊢
  obtain ⟨name, tail⟩ := cut
  dsimp only at hsplit hend ⊢
  by_cases hdelim : tail.headD 0 = 61 ∨ tail.headD 0 = 58
  · obtain ⟨c, rest, rfl⟩ := exists_cons_of_headD (s := tail) (by
      rcases hdelim with heq | heq <;> rw [heq] <;> decide)
    rw [← hsplit] at hbody
    -- the delimiter is overwritten: a name and the text after it
    obtain ⟨line₁, hstore, hname₁, hrest₁, _⟩ := hbody.cut
    obtain ⟨line₂, hstrip, hname₂, hout₂⟩ := rstrip_ok hname₁
    have hrest₂ : line₂.StrAt (start + name.length + 1) rest := hrest₁.frame hout₂ (by omega)
    have hnamelen : (trimRight name).length ≤ name.length :=
      (List.rdropWhile_prefix isspace name).length_le
    -- an inline comment is cut off
    obtain ⟨hfind', _⟩ := find_chars_or_comment_ok none hrest₂
    have hsplit' := upTo_append none rest
    rw [List.tail_cons]
    generalize upTo none rest = cut at hsplit' hfind' ⊢
    obtain ⟨value, comment⟩ := cut
    dsimp only at hsplit' hfind' ⊢
    rw [← hsplit'] at hrest₂
    obtain ⟨line₃, hclip, hvalue₃, hout₃⟩ := clip_ok hrest₂
    have hname₃ : line₃.StrAt start (trimRight name) := hname₂.frame hout₃ (by omega)
    -- what is left is trimmed
    obtain ⟨q, hskip, hvalue₃', hq⟩ := lskip_ok hvalue₃
    have hvaluelen : (trimLeft value).length ≤ value.length :=
      (List.dropWhile_suffix isspace).length_le
    obtain ⟨line₄, hstrip', hvalue₄, hout₄⟩ := rstrip_ok hvalue₃'
    have hname₄ : line₄.StrAt start (trimRight name) := hname₃.frame hout₄ (by omega)
    obtain ⟨prev_name, hcopy, hprev⟩ := strncpy0_ok s.prev_name (by decide) hname₄
    obtain ⟨s', hcall, hturn⟩ := Turn.call handler
      (s := { s with line := line₄, prev_name }) (.ofBytes (trimRight name))
      (.ofBytes (trimRight (trimLeft value))) h.section_at hprev
    refine ⟨s', ?_, ?_⟩
    · rw [if_pos hdelim, hstore, ok_bind, hstrip, ok_bind, hfind', ok_bind, hclip, ok_bind,
        hskip, ok_bind, hstrip', ok_bind, hcopy, ok_bind, hname₄.str, ok_bind, hvalue₄.str,
        ok_bind, hcall]
    · rw [if_pos hdelim]
      exact ⟨hturn.section_at, hturn.prev_name_at, hturn.lineno, hturn.user, hturn.error⟩
  · refine ⟨s.fail, ?_, ?_⟩
    · rw [if_neg hdelim]
      rfl
    · rw [if_neg hdelim]
      exact Turn.malformed h

/-- The line as it is read, with no byte order mark if it is the first one. -/
def withoutBom (lineno : Nat) (text : List UInt8) : List UInt8 :=
  if lineno = 0 then dropBom text else text

theorem skip_bom_ok {n : Nat} {m : Block n} {text : List UInt8} (lineno : Nat)
    (h : m.StrAt 0 text) :
    ∃ start, skip_bom m (lineno + 1) = .ok start ∧ m.StrAt start (withoutBom lineno text) ∧
      (lineno ≠ 0 → start = 0) := by
  unfold skip_bom withoutBom
  by_cases hfirst : lineno = 0
  · rw [if_pos (by omega), if_pos hfirst, begins_ok (by decide) h, ok_bind]
    unfold dropBom
    by_cases hbom : BOM.isPrefixOf text = true
    · obtain ⟨rest, rfl⟩ := List.isPrefixOf_iff_prefix.mp hbom
      rw [if_pos hbom, if_pos hbom]
      exact ⟨3, rfl, h.drop (a := BOM), fun hne => absurd hfirst hne⟩
    · rw [if_neg hbom, if_neg hbom]
      exact ⟨0, rfl, h, fun _ => rfl⟩
  · rw [if_neg (by omega), if_neg hfirst]
    exact ⟨0, rfl, h, fun _ => rfl⟩

theorem headD_ne_zero {s : List UInt8} (h : 0 ∉ s) : s.headD 0 ≠ 0 ↔ s ≠ [] := by
  rcases s with _ | ⟨c, s⟩
  · simp
  · rw [List.mem_cons, not_or] at h
    have hc : (c :: s).headD 0 ≠ 0 := fun heq => h.1 heq.symm
    exact ⟨fun _ => List.cons_ne_nil c s, fun _ => hc⟩

/-- The tests of the source are those of `readLine`. The line is indented if the
    pointer has moved, for which there is no other reason once there is a name. -/
theorem read_line_ok (handler : Handler σ) {text : List UInt8} {start : Nat} (h : Rel s ctx)
    (hbody : s.line.StrAt start (trimLeft (trimRight text)))
    (hindent : ctx.prev_name ≠ [] →
      start + (trimLeft (trimRight text)).length = (trimRight text).length) :
    ∃ s', read_line handler s start = .ok s' ∧ Turn handler s s' (readLine ctx text) := by
  unfold read_line readLine
  rw [hbody.load, ok_bind, h.prev_name_at.load, ok_bind]
  dsimp only
  generalize trimLeft (trimRight text) = body at hbody hindent ⊢
  by_cases hcomment : strchr INI_START_COMMENT_PREFIXES (body.headD 0) = true
  · rw [if_pos hcomment, if_pos hcomment]
    exact ⟨s, rfl, Turn.silent h⟩
  · have hne : body.headD 0 ≠ 0 := by
      intro heq
      rw [heq] at hcomment
      exact hcomment (by decide)
    -- with a name before it, the pointer has moved exactly if blanks were skipped
    have htest : (ctx.prev_name.headD 0 ≠ 0 ∧ body.headD 0 ≠ 0 ∧ 0 < start) ↔
        (ctx.prev_name ≠ [] ∧ body.length < (trimRight text).length) := by
      rw [headD_ne_zero h.prev_name_at.noNul]
      constructor
      · rintro ⟨hprev, _, hpos⟩
        have hlen := hindent hprev
        exact ⟨hprev, by omega⟩
      · rintro ⟨hprev, hlt⟩
        have hlen := hindent hprev
        exact ⟨hprev, hne, by omega⟩
    rw [if_neg hcomment, if_neg hcomment]
    by_cases hcont : ctx.prev_name ≠ [] ∧ body.length < (trimRight text).length
    · rw [if_pos (htest.mpr hcont), if_pos hcont]
      exact continuation_line_ok h hbody
    · rw [if_neg (fun hand => hcont (htest.mp hand)), if_neg hcont]
      by_cases hsection : body.headD 0 = 91
      · rw [if_pos hsection, if_pos hsection]
        rcases body with _ | ⟨c, rest⟩
        · exact absurd rfl hne
        · obtain rfl : c = 91 := hsection
          exact section_line_ok h hbody
      · rw [if_neg hsection, if_neg hsection, if_pos hne]
        exact pair_line_ok h hbody

/-- **One turn.** A line in the buffer is read as its text says, in the context
    that the buffers hold. -/
theorem parse_line_ok (handler : Handler σ) {text : List UInt8} (h : Rel s ctx)
    (hline : s.line.StrAt 0 text) (hno : s.lineno ≠ INT_MAX) :
    ∃ s', parse_line handler s = .ok s' ∧
      Turn handler { s with lineno := s.lineno + 1 } s'
        (readLine ctx (withoutBom s.lineno text)) := by
  obtain ⟨start, hbom, htext, hstart⟩ := skip_bom_ok s.lineno hline
  obtain ⟨line, hstrip, htrim, _⟩ := rstrip_ok htext
  obtain ⟨q, hskip, hbody, hq⟩ := lskip_ok htrim
  have hrel : Rel { s with lineno := s.lineno + 1, line } ctx :=
    ⟨h.section_at, h.prev_name_at, fun heq => absurd heq (Nat.succ_ne_zero _)⟩
  obtain ⟨s', hread, hturn⟩ := read_line_ok handler hrel hbody (by
    intro hprev
    have hstart0 := hstart (fun heq => hprev (h.first heq))
    omega)
  refine ⟨s', ?_, ⟨hturn.section_at, hturn.prev_name_at, hturn.lineno, hturn.user, hturn.error⟩⟩
  have hcount : s.count = .ok { s with lineno := s.lineno + 1 } := if_neg hno
  unfold parse_line
  rw [hcount, ok_bind, hbom, ok_bind, hstrip, ok_bind, hskip, ok_bind]
  exact hread

/-- The next line is read in the context that this one leaves. -/
theorem Turn.rel {s s' : Locals σ} {r : Context × Line} (hno : s.lineno ≠ 0)
    (h : Turn handler s s' r) : Rel s' r.1 :=
  ⟨h.section_at, h.prev_name_at, fun heq => absurd (h.lineno ▸ heq) hno⟩

end turn

/-! ## Section 4: The loop -/

/-- The reader puts the strings in the buffer, one after the other and whatever
    the buffer held before, and returns `NULL` then. -/
inductive Delivers {τ : Type} (reader : Reader τ) : τ → List (List UInt8) → Prop where
  | done {stream : τ} (h : ∀ buf, reader buf INI_MAX_LINE stream = .ok none) :
      Delivers reader stream []
  | line {stream stream' : τ} {text : List UInt8} {texts : List (List UInt8)}
      (h : ∀ buf, ∃ buf', reader buf INI_MAX_LINE stream = .ok (some (buf', stream')) ∧
        buf'.StrAt 0 text)
      (rest : Delivers reader stream' texts) : Delivers reader stream (text :: texts)

/-- The error to report after some lines, if `error` is reported before them and
    they follow line `lineno`. -/
def reported (lineno error : Nat) (errors : List Bool) : Nat :=
  if error = 0 then
    match errors.findIdx? id with
    | some i => lineno + i + 1
    | none => 0
  else error

theorem reported_nil (lineno error : Nat) : reported lineno error [] = error := by
  unfold reported
  by_cases herror : error = 0
  · rw [if_pos herror, herror]
    rfl
  · rw [if_neg herror]

theorem reported_cons (lineno error : Nat) (bad : Bool) (errors : List Bool) :
    reported lineno error (bad :: errors) =
      reported (lineno + 1) (if bad ∧ error = 0 then lineno + 1 else error) errors := by
  by_cases herror : error = 0
  · subst herror
    rcases bad with _ | _
    · simp only [reported, List.findIdx?_cons]
      rcases errors.findIdx? id with _ | i
      · rfl
      · show lineno + (i + 1) + 1 = lineno + 1 + i + 1
        omega
    · simp [reported, List.findIdx?_cons]
  · have hkeep : (if bad ∧ error = 0 then lineno + 1 else error) = error :=
      if_neg (fun hand => herror hand.2)
    rw [hkeep]
    unfold reported
    rw [if_neg herror, if_neg herror]

theorem firstError_eq (errors : List Bool) : firstError errors = reported 0 0 errors := by
  unfold firstError reported
  rw [if_pos rfl]
  rcases errors.findIdx? id with _ | i
  · rfl
  · show i + 1 = 0 + i + 1
    omega

/-- The lines as they are read after line `lineno`. -/
def textsFrom (lineno : Nat) : List (List UInt8) → List (List UInt8)
  | [] => []
  | text :: texts => withoutBom lineno text :: texts

theorem textsFrom_of_pos {lineno : Nat} (h : lineno ≠ 0) (texts : List (List UInt8)) :
    textsFrom lineno texts = texts := by
  rcases texts with _ | ⟨text, texts⟩
  · rfl
  · show (if lineno = 0 then dropBom text else text) :: texts = text :: texts
    rw [if_neg h]

section loop

variable {σ τ : Type} {reader : Reader τ} {handler : Handler σ}

/-- **The loop.** By induction on the lines: each is read in the context the
    lines before it leave, unless there are too many to be counted. -/
theorem parse_lines_ok (handler : Handler σ) {stream : τ} {texts : List (List UInt8)}
    (hreader : Delivers reader stream texts) {fuel : Nat} (hfuel : texts.length < fuel)
    {s : Locals σ} {ctx : Context} (h : Rel s ctx) (hno : s.lineno ≤ INT_MAX) :
    if s.lineno + texts.length ≤ INT_MAX then
      ∃ s', parse_lines reader handler fuel stream s = .ok s' ∧
        s'.user = (observe handler s.user (readLines ctx (textsFrom s.lineno texts))).2 ∧
        s'.error = reported s.lineno s.error
          (observe handler s.user (readLines ctx (textsFrom s.lineno texts))).1
    else parse_lines reader handler fuel stream s = .error .signedOverflow := by
  induction hreader generalizing fuel s ctx with
  | done hread =>
    obtain ⟨fuel, rfl⟩ := Nat.exists_eq_add_one.mpr (Nat.lt_of_le_of_lt (Nat.zero_le _) hfuel)
    rw [if_pos (by rw [List.length_nil]; omega)]
    refine ⟨s, ?_, rfl, (reported_nil s.lineno s.error).symm⟩
    unfold parse_lines
    rw [hread s.line, ok_bind]
    rfl
  | @line stream stream' text texts hread rest ih =>
    obtain ⟨fuel, rfl⟩ := Nat.exists_eq_add_one.mpr (Nat.lt_of_le_of_lt (Nat.zero_le _) hfuel)
    rw [List.length_cons] at hfuel ⊢
    obtain ⟨line, hline, htext⟩ := hread s.line
    unfold parse_lines
    rw [hline, ok_bind]
    dsimp only
    by_cases hmax : s.lineno = INT_MAX
    · -- the count overflows before the line is looked at
      have hover : parse_line handler { s with line } = .error .signedOverflow := by
        have hcount : Locals.count { s with line } = .error .signedOverflow := if_pos hmax
        unfold parse_line
        rw [hcount]
        rfl
      rw [if_neg (by omega), hover]
      rfl
    · have hrel : Rel { s with line } ctx := ⟨h.section_at, h.prev_name_at, h.first⟩
      obtain ⟨s₁, hparse, hturn⟩ := parse_line_ok handler hrel htext hmax
      have hlineno : s₁.lineno = s.lineno + 1 := hturn.lineno
      have hrun := ih (show texts.length < fuel by omega) (hturn.rel (Nat.succ_ne_zero _))
        (show s₁.lineno ≤ INT_MAX by omega)
      have huser : s₁.user = _ := hturn.user
      have herror : s₁.error = _ := hturn.error
      rw [hparse, ok_bind]
      rw [hlineno, textsFrom_of_pos (Nat.succ_ne_zero _), huser, herror] at hrun
      -- the bound on the lines is the same before and after this one
      rw [show s.lineno + (texts.length + 1) = s.lineno + 1 + texts.length from by omega]
      by_cases hfits : s.lineno + 1 + texts.length ≤ INT_MAX
      · rw [if_pos hfits] at hrun ⊢
        obtain ⟨s', hloop, huser', herror'⟩ := hrun
        refine ⟨s', hloop, huser', ?_⟩
        rw [herror']
        show _ = reported s.lineno s.error (_ :: _)
        rw [reported_cons]
      · rw [if_neg hfits] at hrun ⊢
        exact hrun

/-- `ini_parse_stream`, for a reader that delivers `texts`. -/
theorem ini_parse_stream_eq {stream : τ} {texts : List (List UInt8)}
    (hreader : Delivers reader stream texts) {fuel : Nat} (hfuel : texts.length < fuel)
    (line : Block INI_MAX_LINE) (user : σ) :
    ini_parse_stream reader handler fuel stream line user =
      if texts.length ≤ INT_MAX then
        .ok ((firstError (observe handler user (readLines .start (textsFrom 0 texts))).1 : Int),
          (observe handler user (readLines .start (textsFrom 0 texts))).2)
      else .error .signedOverflow := by
  have hrel : Rel (σ := σ) ⟨line, .zero _, .zero _, 0, 0, user⟩ .start :=
    ⟨⟨List.not_mem_nil, Block.at_zero 1 (by decide)⟩,
      ⟨List.not_mem_nil, Block.at_zero 1 (by decide)⟩, fun _ => rfl⟩
  have hloop := parse_lines_ok handler hreader hfuel hrel (Nat.zero_le _)
  unfold ini_parse_stream
  dsimp only at hloop
  rw [Nat.zero_add] at hloop
  by_cases hfits : texts.length ≤ INT_MAX
  · rw [if_pos hfits] at hloop ⊢
    obtain ⟨s', hrun, huser, herror⟩ := hloop
    rw [hrun, ok_bind, huser, herror, firstError_eq]
    rfl
  · rw [if_neg hfits] at hloop ⊢
    rw [hloop]
    rfl

end loop

/-! ## Section 5: The readers -/

/-- The first line received, and what is left of the stream. -/
theorem received_of_ne_nil {content : List UInt8} (h : content ≠ []) :
    received content =
      (CString.ofBytes (Lines.next 10 (INI_MAX_LINE - 1) content).1).bytes ::
        received (Lines.next 10 (INI_MAX_LINE - 1) content).2 := by
  unfold received
  rw [Lines.pieces_eq_next 10 _ (by decide) h]
  rfl

theorem length_next_lt {content : List UInt8} (h : content ≠ []) :
    (Lines.next 10 (INI_MAX_LINE - 1) content).2.length < content.length := by
  have hne := Lines.next_ne_nil 10 (show 0 < INI_MAX_LINE - 1 by decide) h
  have hpos := List.length_pos_iff.mpr hne
  have hsplit := congrArg List.length (Lines.next_append 10 (INI_MAX_LINE - 1) content)
  rw [List.length_append] at hsplit
  omega

/-- `fgets` delivers the lines of the file. -/
theorem fgets_delivers (content : List UInt8) : Delivers fgets content (received content) := by
  by_cases hcontent : content = []
  · subst hcontent
    exact .done (fun _ => rfl)
  · rw [received_of_ne_nil hcontent]
    have hlen := Lines.next_length_le 10 (INI_MAX_LINE - 1) content
    refine .line ?_ (fgets_delivers (Lines.next 10 (INI_MAX_LINE - 1) content).2)
    intro buf
    obtain ⟨buf', hwrite, hat, _⟩ := Block.write_ok (m := buf) (p := 0)
      ((Lines.next 10 (INI_MAX_LINE - 1) content).1 ++ [0]) (by
        have hmax : INI_MAX_LINE - 1 + 1 = INI_MAX_LINE := rfl
        rw [List.length_append, List.length_singleton]
        omega)
    refine ⟨buf', ?_, Block.StrAt.of_bytes hat⟩
    unfold fgets
    rw [if_neg hcontent, hwrite]
    rfl
termination_by content.length
decreasing_by exact length_next_lt hcontent

/-- The loop of `ini_reader_string` takes what `fgets` takes, by induction on
    the room that is left. -/
theorem readerLoop_ok {n k : Nat} {string : Block k} {num ptr strp : Nat} {s : List UInt8}
    (h : string.StrAt ptr s) (str : Block n) (hroom : strp + (num + 1) ≤ n) :
    ∃ str', readerLoop string (num + 1) str strp ⟨ptr, s.length⟩ =
        .ok (str', ⟨ptr + (Lines.next 10 num s).1.length, (Lines.next 10 num s).2.length⟩) ∧
      str'.At strp ((Lines.next 10 num s).1 ++ [0]) ∧ Outside strp (num + 1) str str' := by
  induction num generalizing ptr strp s str with
  | zero =>
    -- there is room for the NUL only
    obtain ⟨str', hstore, hat, hout⟩ := Block.store_ok (m := str) (p := strp) 0 (by omega)
    refine ⟨str', ?_, hat, hout⟩
    show (str.store strp 0 >>= _) = _
    rw [hstore]
    rfl
  | succ num ih =>
    rcases s with _ | ⟨c, s⟩
    · -- the string has ended
      obtain ⟨str', hstore, hat, hout⟩ := Block.store_ok (m := str) (p := strp) 0 (by omega)
      refine ⟨str', ?_, hat, hout.mono (Nat.le_refl _) (by omega)⟩
      show (str.store strp 0 >>= _) = _
      rw [hstore]
      rfl
    · obtain ⟨str₁, hstore, hat₁, hout₁⟩ := Block.store_ok (m := str) (p := strp) c (by omega)
      unfold readerLoop Lines.next
      rw [if_pos (show (c :: s).length ≠ 0 from Nat.succ_ne_zero _)]
      show ∃ str', (string.load ptr >>= _) = _ ∧ _
      rw [h.load, ok_bind]
      show ∃ str', (str.store strp c >>= _) = _ ∧ _
      rw [hstore, ok_bind]
      by_cases hc : c = 10
      · -- a newline is the last byte taken
        obtain ⟨str', hstore', hat', hout'⟩ :=
          Block.store_ok (m := str₁) (p := strp + 1) 0 (by omega)
        refine ⟨str', ?_, ?_, ?_⟩
        · rw [if_pos (show (c :: s).headD 0 = 10 from hc), if_pos hc, hstore']
          rfl
        · rw [if_pos hc, List.singleton_append]
          exact hout'.cons hat₁ hat'
        · exact (hout₁.mono (Nat.le_refl _) (by omega)).trans (hout'.mono (by omega) (by omega))
      · have hrest : string.StrAt (ptr + 1) s := h.drop (a := [c])
        obtain ⟨str', hloop, hat', hout'⟩ := ih hrest str₁ (show strp + 1 + (num + 1) ≤ n by omega)
        refine ⟨str', ?_, ?_, ?_⟩
        · rw [if_neg (show ¬ (c :: s).headD 0 = 10 from hc), if_neg hc]
          show readerLoop string (num + 1) str₁ (strp + 1) ⟨ptr + 1, s.length⟩ = _
          rw [hloop, List.length_cons, show ptr + 1 + (Lines.next 10 num s).1.length =
            ptr + ((Lines.next 10 num s).1.length + 1) from by omega]
        · rw [if_neg hc, List.cons_append]
          exact hout'.cons hat₁ hat'
        · exact (hout₁.mono (Nat.le_refl _) (by omega)).trans (hout'.mono (by omega) (by omega))

/-- `ini_reader_string` delivers what `fgets` delivers of a file with the same
    bytes. -/
theorem ini_reader_string_delivers {k : Nat} {string : Block k} {ptr : Nat} {s : List UInt8}
    (h : string.StrAt ptr s) :
    Delivers (ini_reader_string string) ⟨ptr, s.length⟩ (received s) := by
  by_cases hs : s = []
  · subst hs
    exact .done (fun _ => rfl)
  · rw [received_of_ne_nil hs]
    have hsplit := Lines.next_append 10 (INI_MAX_LINE - 1) s
    have hrest : string.StrAt (ptr + (Lines.next 10 (INI_MAX_LINE - 1) s).1.length)
        (Lines.next 10 (INI_MAX_LINE - 1) s).2 := by
      rw [← hsplit] at h
      exact h.drop
    refine .line ?_ (ini_reader_string_delivers hrest)
    intro buf
    obtain ⟨buf', hloop, hat, _⟩ :=
      readerLoop_ok h buf (show 0 + (INI_MAX_LINE - 1 + 1) ≤ INI_MAX_LINE by decide)
    refine ⟨buf', ?_, Block.StrAt.of_bytes hat⟩
    have hleft : ¬ (s.length = 0 ∨ INI_MAX_LINE < 2) := by
      rintro (hzero | hsmall)
      · exact hs (List.length_eq_zero_iff.mp hzero)
      · exact absurd hsmall (by decide)
    unfold ini_reader_string
    rw [if_neg hleft]
    show some <$> readerLoop string (INI_MAX_LINE - 1 + 1) buf 0 ⟨ptr, s.length⟩ = _
    rw [hloop]
    rfl
termination_by s.length
decreasing_by exact length_next_lt hs

/-! ## Section 6: The parser -/

theorem linesOf_eq (content : List UInt8) : linesOf content = textsFrom 0 (received content) := by
  unfold linesOf textsFrom
  rcases received content with _ | ⟨text, texts⟩ <;> rfl

theorem length_received_le (content : List UInt8) :
    (received content).length ≤ content.length := by
  unfold received
  rw [List.length_map]
  exact Lines.length_pieces_le _ _ _ _

/-- The handler is called for what the lines name, in their order. -/
theorem observe_user {σ : Type} (handler : Handler σ) (user : σ) (ls : List Line) :
    (observe handler user ls).2 = (ls.filterMap Line.assignment?).foldl
      (fun u a => (handler u a.section_ a.name a.value).2) user := by
  induction ls generalizing user with
  | nil => rfl
  | cons l ls ih =>
    rcases l with _ | a | _
    · exact ih user
    · exact ih (handler user a.section_ a.name a.value).2
    · exact ih user

theorem firstError_eq_zero {errors : List Bool} : firstError errors = 0 ↔ true ∉ errors := by
  unfold firstError
  rcases hfind : errors.findIdx? id with _ | i
  · rw [List.findIdx?_eq_none_iff] at hfind
    exact ⟨fun _ hmem => absurd (hfind true hmem) (by simp), fun _ => rfl⟩
  · obtain ⟨hlt, hi, _⟩ := List.findIdx?_eq_some_iff_getElem.mp hfind
    have hmem : true ∈ errors := by
      rw [show true = errors[i] from hi.symm]
      exact List.getElem_mem hlt
    exact ⟨fun hzero => absurd hzero (Nat.succ_ne_zero i), fun hno => absurd hmem hno⟩

theorem firstError_eq_succ {errors : List Bool} {k : Nat} :
    firstError errors = k + 1 ↔
      errors[k]? = some true ∧ ∀ j < k, errors[j]? = some false := by
  have hiff : firstError errors = k + 1 ↔ errors.findIdx? id = some k := by
    unfold firstError
    rcases errors.findIdx? id with _ | i
    · simp
    · simp
  rw [hiff, List.findIdx?_eq_some_iff_getElem]
  constructor
  · rintro ⟨hlt, hk, hbefore⟩
    refine ⟨by rw [List.getElem?_eq_getElem hlt]; exact congrArg some hk, ?_⟩
    intro j hj
    rw [List.getElem?_eq_getElem (hj.trans hlt)]
    exact congrArg some (by simpa using hbefore j hj)
  · rintro ⟨hk, hbefore⟩
    obtain ⟨hlt, hk⟩ := List.getElem?_eq_some_iff.mp hk
    refine ⟨hlt, hk, ?_⟩
    intro j hj
    obtain ⟨_, hjf⟩ := List.getElem?_eq_some_iff.mp (hbefore j hj)
    rw [hjf]
    simp

/-- The handler, with its calls written down. -/
def recording {σ : Type} (handler : Handler σ) : Handler (σ × List Assignment) :=
  fun user section_ name value =>
    ((handler user.1 section_ name value).1,
      (handler user.1 section_ name value).2, user.2 ++ [⟨section_, name, value⟩])

theorem foldl_recording {σ : Type} (handler : Handler σ) (as : List Assignment) (user : σ)
    (calls : List Assignment) :
    as.foldl (fun u a => (recording handler u a.section_ a.name a.value).2) (user, calls) =
      (as.foldl (fun u a => (handler u a.section_ a.name a.value).2) user, calls ++ as) := by
  induction as generalizing user calls with
  | nil => rw [List.append_nil]; rfl
  | cons a as ih =>
    rw [List.foldl_cons, List.foldl_cons]
    show List.foldl _ (_, calls ++ [a]) as = _
    rw [ih, List.append_assoc]
    rfl

section parser

variable {σ : Type} (handler : Handler σ) (line : Block INI_MAX_LINE) (user : σ)

/-- The parser reads the file as the format says, whatever its buffer held
    before. Only lines beyond `INT_MAX` cannot be counted. -/
theorem ini_parse_file_eq (content : List UInt8) :
    ini_parse_file handler line content user =
      if (received content).length ≤ INT_MAX then
        .ok ((firstError (observe handler user (readText content)).1 : Int),
          (assignments content).foldl
            (fun u a => (handler u a.section_ a.name a.value).2) user)
      else .error .signedOverflow := by
  have hfuel : (received content).length < content.length + 1 :=
    Nat.lt_succ_of_le (length_received_le content)
  unfold ini_parse_file
  rw [ini_parse_stream_eq (fgets_delivers content) hfuel, ← linesOf_eq]
  unfold assignments
  rw [← observe_user]
  rfl

/-- **The contract of `ini.h`**, for every file and every handler. No access is
    out of bounds and the loop comes to its end; the handler is called for the
    assignments of the file in their order; and the number reported is that of the
    first line that is malformed or refused by the handler. Lines are what arrives
    in the buffer, so that a line that does not fit in it counts as several. -/
theorem parser_contract (content : List UInt8) :
    (∀ f, ini_parse_file handler line content user = .error f →
        f = .signedOverflow ∧ INT_MAX < (received content).length) ∧
      ((received content).length ≤ INT_MAX → ∃ error : Nat,
        ini_parse_file handler line content user =
            .ok ((error : Int), (assignments content).foldl
              (fun u a => (handler u a.section_ a.name a.value).2) user) ∧
          (error = 0 ↔ true ∉ (observe handler user (readText content)).1) ∧
          ∀ k, error = k + 1 ↔
            (observe handler user (readText content)).1[k]? = some true ∧
              ∀ j < k, (observe handler user (readText content)).1[j]? = some false) := by
  have heq := ini_parse_file_eq handler line user content
  refine ⟨?_, ?_⟩
  · intro f hf
    rw [heq] at hf
    by_cases hmax : (received content).length ≤ INT_MAX
    · rw [if_pos hmax] at hf
      exact absurd hf (by simp)
    · rw [if_neg hmax] at hf
      exact ⟨(Except.error.inj hf).symm, by omega⟩
  · intro hmax
    rw [if_pos hmax] at heq
    exact ⟨_, heq, firstError_eq_zero, fun k => firstError_eq_succ⟩

/-- **Two readers, one parser.** A text in memory is parsed as a file with the
    same bytes. -/
theorem ini_parse_string_eq_file {k : Nat} {string : Block k} {text : List UInt8}
    (h : string.StrAt 0 text) :
    ini_parse_string handler line string user = ini_parse_file handler line text user := by
  have hfuel : (received text).length < text.length + 1 :=
    Nat.lt_succ_of_le (length_received_le text)
  unfold ini_parse_string ini_parse_file
  rw [h.strlen, ok_bind, ini_parse_stream_eq (ini_reader_string_delivers h) hfuel,
    ini_parse_stream_eq (fgets_delivers text) hfuel]

end parser

/-- `a=b` in memory, with a byte after its NUL. -/
theorem ini_parse_string_eq_file_example :
    ini_parse_string (recording fun _ _ _ _ => (1, ())) (.zero _)
        (⟨[97, 61, 98, 0, 7], rfl⟩ : Block 5) ((), []) =
      ini_parse_file (recording fun _ _ _ _ => (1, ())) (.zero _) [97, 61, 98] ((), []) :=
  ini_parse_string_eq_file (recording fun _ _ _ _ => (1, ())) (.zero _) ((), [])
    ⟨by decide, by unfold Block.At; decide⟩

end Inih
