import TeamspeakNotifications.Properties.IniRefinement

/-! # What the handler is given

    Whatever a file contains, the strings the parser hands over have the form of
    a section, a name and a value.

    * `IsTitle`, `IsName`, `IsValue`, `IsContinuation`: these forms.
    * `Reads`: all that a line can say, and `readLine_reads`: nothing else.
    * `ContextOk`: the invariant of the context, kept by every line.
    * `handler_arguments`: every call of the handler in every run.
-/

namespace Inih

open CLib TeamspeakNotifications

/-! ## Section 1: Forms -/

/-- Neither a NUL nor a newline. -/
def OneLine (s : List UInt8) : Prop := 0 ∉ s ∧ 10 ∉ s

/-- There is none of `chars` in it, and no inline comment. -/
def Plain (chars : Option CString) (s : List UInt8) : Prop := Passes (findStep chars) false s

/-- No whitespace at either end. -/
def Trimmed (s : List UInt8) : Prop := trimLeft s = s ∧ trimRight s = s

instance (s : List UInt8) : Decidable (OneLine s) := inferInstanceAs (Decidable (_ ∧ _))
instance (chars : Option CString) (s : List UInt8) : Decidable (Plain chars s) :=
  inferInstanceAs (Decidable (_ = _))
instance (s : List UInt8) : Decidable (Trimmed s) := inferInstanceAs (Decidable (_ ∧ _))

/-- The text between the brackets of a section. -/
structure IsTitle (s : List UInt8) : Prop where
  one_line : OneLine s
  plain : Plain (some (CString.ofString "]")) s

/-- The text before a delimiter. It may be empty. -/
structure IsName (s : List UInt8) : Prop where
  one_line : OneLine s
  plain : Plain (some (CString.ofString "=:")) s
  trimmed : Trimmed s
  head : s.headD 0 ≠ 59 ∧ s.headD 0 ≠ 35 ∧ s.headD 0 ≠ 91

/-- The text after a delimiter. -/
structure IsValue (s : List UInt8) : Prop where
  one_line : OneLine s
  plain : Plain none s
  trimmed : Trimmed s

/-- The text of a line that goes on with a value. An inline comment is part of
    it. -/
structure IsContinuation (s : List UInt8) : Prop where
  one_line : OneLine s
  trimmed : Trimmed s
  head : s.headD 0 ≠ 59 ∧ s.headD 0 ≠ 35
  nonempty : s ≠ []

/-! ## Section 2: Parts of a string -/

theorem OneLine.of_subset {s t : List UInt8} (h : OneLine s) (hsub : t ⊆ s) : OneLine t :=
  ⟨fun h0 => h.1 (hsub h0), fun h10 => h.2 (hsub h10)⟩

theorem trimRight_subset (s : List UInt8) : trimRight s ⊆ s :=
  (List.rdropWhile_prefix isspace s).subset

theorem trimLeft_subset (s : List UInt8) : trimLeft s ⊆ s :=
  (List.dropWhile_suffix isspace).subset

theorem length_trimRight_le (s : List UInt8) : (trimRight s).length ≤ s.length :=
  (List.rdropWhile_prefix isspace s).length_le

theorem length_trimLeft_le (s : List UInt8) : (trimLeft s).length ≤ s.length :=
  (List.dropWhile_suffix isspace).length_le

theorem trimLeft_trimLeft (s : List UInt8) : trimLeft (trimLeft s) = trimLeft s :=
  List.dropWhile_idempotent isspace s

theorem trimRight_trimRight (s : List UInt8) : trimRight (trimRight s) = trimRight s :=
  List.rdropWhile_idempotent isspace s

theorem trimLeft_eq_self_iff {s : List UInt8} :
    trimLeft s = s ↔ ∀ c ∈ s.head?, isspace c = false := by
  unfold trimLeft
  rcases s with _ | ⟨c, s⟩
  · simp
  · by_cases hc : isspace c = true
    · rw [List.dropWhile_cons_of_pos hc]
      constructor
      · intro heq
        have hlen := (List.dropWhile_suffix (l := s) isspace).length_le
        rw [heq, List.length_cons] at hlen
        omega
      · intro hhead
        exact absurd hc (by rw [hhead c rfl]; decide)
    · rw [List.dropWhile_cons_of_neg hc]
      simpa using hc

theorem trimRight_eq_self_iff {s : List UInt8} :
    trimRight s = s ↔ ∀ c ∈ s.getLast?, isspace c = false := by
  rcases List.eq_nil_or_concat s with rfl | ⟨s, c, rfl⟩
  · simp [trimRight]
  · rw [List.concat_eq_append]
    by_cases hc : isspace c = true
    · rw [trimRight_concat_of_space hc]
      constructor
      · intro heq
        have hlen := length_trimRight_le s
        rw [heq, List.length_append, List.length_singleton] at hlen
        omega
      · intro hlast
        exact absurd hc (by rw [hlast c (by simp)]; decide)
    · rw [trimRight_concat_of_not hc]
      simpa using hc

/-- Nothing that is cut off on the left gives the text a new end. -/
theorem trimRight_suffix {s t : List UInt8} (h : s <:+ t) (ht : trimRight t = t) :
    trimRight s = s := by
  obtain ⟨u, rfl⟩ := h
  rw [trimRight_eq_self_iff] at ht ⊢
  intro c hc
  refine ht c ?_
  rw [List.getLast?_append, hc]
  rfl

/-- Nothing that is cut off on the right gives the text a new beginning. -/
theorem trimLeft_initial {s t : List UInt8} (h : s <+: t) (ht : trimLeft t = t) :
    trimLeft s = s := by
  obtain ⟨u, rfl⟩ := h
  rw [trimLeft_eq_self_iff] at ht ⊢
  intro c hc
  refine ht c ?_
  rw [List.head?_append, hc]
  rfl

theorem trimmed_trim (s : List UInt8) : Trimmed (trimLeft (trimRight s)) :=
  ⟨trimLeft_trimLeft _,
    trimRight_suffix (List.dropWhile_suffix isspace) (trimRight_trimRight s)⟩

theorem trimmed_trim' (s : List UInt8) : Trimmed (trimRight (trimLeft s)) :=
  ⟨trimLeft_initial (List.rdropWhile_prefix isspace _) (trimLeft_trimLeft s),
    trimRight_trimRight _⟩

theorem plain_upTo (chars : Option CString) (s : List UInt8) : Plain chars (upTo chars s).1 :=
  passes_walk (findStep chars) false s

theorem Plain.initial {chars : Option CString} {s t : List UInt8} (h : Plain chars t)
    (hst : s <+: t) : Plain chars s := by
  obtain ⟨u, rfl⟩ := hst
  exact Passes.of_append h

/-- What passes after a space passes at the beginning, too. -/
theorem Plain.of_space {chars : Option CString} {s : List UInt8}
    (h : Passes (findStep chars) true s) : Plain chars s := by
  rcases s with _ | ⟨c, s⟩
  · rfl
  · obtain ⟨b, hc, hrest⟩ := passes_cons.mp h
    refine passes_cons.mpr ⟨b, ?_, hrest⟩
    unfold findStep at hc ⊢
    by_cases hstop : c ≠ 0 ∧ ¬ (chars.any (strchr · c)) = true ∧
        ¬ (true = true ∧ strchr INI_INLINE_COMMENT_PREFIXES c = true)
    · rw [if_pos hstop] at hc
      rw [if_pos ⟨hstop.1, hstop.2.1, by simp⟩]
      exact hc
    · rw [if_neg hstop] at hc
      exact absurd hc (by simp)

theorem Plain.trimLeft {chars : Option CString} {s : List UInt8} (h : Plain chars s) :
    Plain chars (trimLeft s) := by
  induction s with
  | nil => exact h
  | cons c s ih =>
    unfold Inih.trimLeft at ih ⊢
    by_cases hc : isspace c = true
    · rw [List.dropWhile_cons_of_pos hc]
      obtain ⟨b, hstep, hrest⟩ := passes_cons.mp h
      have hb : b = true := by
        unfold findStep at hstep
        split at hstep
        · rw [← Option.some.inj hstep, hc]
        · exact absurd hstep (by simp)
      rw [hb] at hrest
      exact ih (Plain.of_space hrest)
    · rw [List.dropWhile_cons_of_neg hc]
      exact h

/-! ## Section 3: All that a line can say -/

/-- What a line of `room` bytes can say in a context, and what it leaves. -/
inductive Reads (ctx : Context) (room : Nat) : Context × Line → Prop where
  | silent : Reads ctx room (ctx, .silent)
  | malformed : Reads ctx room (ctx, .malformed)
  | continuation {v : List UInt8} (h : IsContinuation v) (named : ctx.prev_name ≠ [])
      (fits : v.length < room) :
      Reads ctx room
        (ctx, .pair ⟨.ofBytes ctx.section_, .ofBytes ctx.prev_name, .ofBytes v⟩)
  | section_ {t : List UInt8} (h : IsTitle t) (fits : t.length + 2 ≤ room) :
      Reads ctx room (⟨t.take (MAX_SECTION - 1), []⟩, .silent)
  | pair {n v : List UInt8} (hname : IsName n) (hvalue : IsValue v)
      (fits : n.length + 1 + v.length ≤ room) :
      Reads ctx room (⟨ctx.section_, n.take (MAX_NAME - 1)⟩,
        .pair ⟨.ofBytes ctx.section_, .ofBytes n, .ofBytes v⟩)

theorem headD_of_initial {s t : List UInt8} (h : s <+: t) : s = [] ∨ s.headD 0 = t.headD 0 := by
  obtain ⟨u, rfl⟩ := h
  rcases s with _ | ⟨c, s⟩
  · exact Or.inl rfl
  · exact Or.inr rfl

theorem headD_ne_of_initial {s t : List UInt8} (h : s <+: t) {c : UInt8} (hc : c ≠ 0)
    (ht : t.headD 0 ≠ c) : s.headD 0 ≠ c := by
  rcases headD_of_initial h with rfl | heq
  · exact fun h0 => hc h0.symm
  · rw [heq]
    exact ht

section reads

variable {ctx : Context} {body : List UInt8}

theorem upTo_fst_subset (chars : Option CString) (s : List UInt8) : (upTo chars s).1 ⊆ s := by
  intro c hc
  rw [← upTo_append chars s]
  exact List.mem_append_left _ hc

theorem upTo_fst_initial (chars : Option CString) (s : List UInt8) : (upTo chars s).1 <+: s :=
  ⟨(upTo chars s).2, upTo_append chars s⟩

theorem readSection_reads {rest : List UInt8} (h : OneLine rest) {room : Nat}
    (hroom : rest.length < room) : Reads ctx room (readSection ctx rest) := by
  have hsplit := congrArg List.length (upTo_append (some (CString.ofString "]")) rest)
  rw [List.length_append] at hsplit
  unfold readSection
  dsimp only
  split
  · rename_i hclose
    -- the brackets take two bytes of the line
    have hne : (upTo (some (CString.ofString "]")) rest).2 ≠ [] := by
      intro hnil
      rw [hnil] at hclose
      exact absurd hclose (by decide)
    have hpos := List.length_pos_iff.mpr hne
    refine .section_ ⟨h.of_subset (upTo_fst_subset _ rest), plain_upTo _ rest⟩ ?_
    omega
  · exact .malformed

theorem readPair_reads (hline : OneLine body) (htrimmed : Trimmed body)
    (hhead : body.headD 0 ≠ 59 ∧ body.headD 0 ≠ 35 ∧ body.headD 0 ≠ 91) {room : Nat}
    (hroom : body.length ≤ room) : Reads ctx room (readPair ctx body) := by
  have hsplit := upTo_append (some (CString.ofString "=:")) body
  have hplain := plain_upTo (some (CString.ofString "=:")) body
  unfold readPair
  generalize upTo (some (CString.ofString "=:")) body = cut at hsplit hplain ⊢
  obtain ⟨name, tail⟩ := cut
  dsimp only at hsplit hplain ⊢
  split
  · rename_i hdelim
    obtain ⟨c, rest, rfl⟩ := exists_cons_of_headD (s := tail) (by
      rcases hdelim with heq | heq <;> rw [heq] <;> decide)
    -- the name begins the line, the value is a part of what follows the delimiter
    have hnamepre : trimRight name <+: body :=
      (List.rdropWhile_prefix isspace name).trans ⟨c :: rest, hsplit⟩
    have hvaluesub : trimRight (trimLeft (upTo none rest).1) ⊆ body := by
      have hrest : rest ⊆ body := by
        rw [← hsplit]
        exact fun d hd => List.mem_append_right name (List.mem_cons_of_mem c hd)
      exact List.Subset.trans (List.Subset.trans (trimRight_subset _) (trimLeft_subset _))
        (List.Subset.trans (upTo_fst_subset none rest) hrest)
    have hlen : name.length + (rest.length + 1) = body.length := by
      rw [← hsplit, List.length_append, List.length_cons]
    have hnamelen := length_trimRight_le name
    have hvaluelen : (trimRight (trimLeft (upTo none rest).1)).length ≤ rest.length :=
      ((length_trimRight_le _).trans (length_trimLeft_le _)).trans (upTo_fst_initial none rest).length_le
    rw [List.tail_cons]
    refine .pair ⟨?_, ?_, ⟨?_, ?_⟩, ?_⟩ ⟨?_, ?_, ?_⟩ (by omega)
    · exact hline.of_subset hnamepre.subset
    · exact hplain.initial (List.rdropWhile_prefix isspace name)
    · exact trimLeft_initial hnamepre htrimmed.1
    · exact trimRight_trimRight name
    · exact ⟨headD_ne_of_initial hnamepre (by decide) hhead.1,
        headD_ne_of_initial hnamepre (by decide) hhead.2.1,
        headD_ne_of_initial hnamepre (by decide) hhead.2.2⟩
    · exact hline.of_subset hvaluesub
    · exact (plain_upTo none rest).trimLeft.initial (List.rdropWhile_prefix isspace _)
    · exact trimmed_trim' _
  · exact .malformed

/-- **Inversion.** A line says nothing else than these. -/
theorem readLine_reads (ctx : Context) {text : List UInt8} (h : OneLine (trimRight text)) :
    Reads ctx text.length (readLine ctx text) := by
  have hline : OneLine (trimLeft (trimRight text)) := h.of_subset (trimLeft_subset _)
  have htrimmed := trimmed_trim text
  have hlen := length_trimLeft_le (trimRight text)
  have hlen' := length_trimRight_le text
  unfold readLine
  dsimp only
  generalize trimLeft (trimRight text) = body at hline htrimmed hlen ⊢
  by_cases hcomment : strchr INI_START_COMMENT_PREFIXES (body.headD 0) = true
  · rw [if_pos hcomment]
    exact .silent
  · rw [if_neg hcomment]
    -- the characters that begin a comment, among them the NUL
    have hhead : body.headD 0 ≠ 0 ∧ body.headD 0 ≠ 59 ∧ body.headD 0 ≠ 35 := by
      refine ⟨?_, ?_, ?_⟩
      all_goals
        intro heq
        rw [heq] at hcomment
        exact hcomment (by decide)
    have hne : body ≠ [] := by
      rintro rfl
      exact hhead.1 rfl
    split
    · rename_i hcont
      exact .continuation ⟨hline, htrimmed, hhead.2, hne⟩ hcont.1 (by omega)
    · split
      · have hpos := List.length_pos_iff.mpr hne
        refine readSection_reads (hline.of_subset (fun c hc => List.mem_of_mem_tail hc)) ?_
        rw [List.length_tail]
        omega
      · rename_i hsection
        exact readPair_reads hline htrimmed ⟨hhead.2.1, hhead.2.2, hsection⟩ (by omega)

end reads

/-! ## Section 4: The lines of a file -/

/-- A line as it comes from the buffer: it fits there, and a newline is its last
    byte. -/
structure IsLine (s : List UInt8) : Prop where
  noNul : 0 ∉ s
  newline_last : 10 ∉ s.dropLast
  fits : s.length < INI_MAX_LINE

theorem IsLine.one_line {s : List UInt8} (h : IsLine s) : OneLine (trimRight s) := by
  refine ⟨fun h0 => h.noNul (trimRight_subset s h0), ?_⟩
  rcases List.eq_nil_or_concat s with rfl | ⟨t, c, rfl⟩
  · exact List.not_mem_nil
  · rw [List.concat_eq_append]
    have ht : 10 ∉ t := by
      have hlast := h.newline_last
      rwa [List.concat_eq_append, List.dropLast_concat] at hlast
    by_cases hc : isspace c = true
    · rw [trimRight_concat_of_space hc]
      exact fun h10 => ht (trimRight_subset t h10)
    · -- a last byte that stays is not the newline, which is a space
      rw [trimRight_concat_of_not hc, List.mem_append, not_or, List.mem_singleton]
      refine ⟨ht, ?_⟩
      rintro rfl
      exact hc (by decide)

theorem IsLine.within {s t : List UInt8} (h : IsLine t) (hst : s <:+: t) : IsLine s := by
  refine ⟨fun h0 => h.noNul (hst.subset h0), ?_, Nat.lt_of_le_of_lt hst.length_le h.fits⟩
  obtain ⟨u, v, rfl⟩ := hst
  intro h10
  apply h.newline_last
  rcases v with _ | ⟨c, v⟩
  · -- the part ends with the line
    rw [List.append_nil]
    rcases s with _ | ⟨d, s⟩
    · exact absurd h10 List.not_mem_nil
    · rw [List.dropLast_append_of_ne_nil (List.cons_ne_nil d s)]
      exact List.mem_append_right u h10
  · rw [List.dropLast_append_of_ne_nil (List.cons_ne_nil c v)]
    exact List.mem_append_left _ (List.mem_append_right u (List.dropLast_subset s h10))

theorem ofBytes_initial (l : List UInt8) : (CString.ofBytes l).bytes <+: l :=
  List.takeWhile_prefix _

/-- Every line that is read comes from the buffer. -/
theorem isLine_of_mem_received {content text : List UInt8} (h : text ∈ received content) :
    IsLine text := by
  obtain ⟨l, hl, rfl⟩ := List.mem_map.mp h
  obtain ⟨hlen, hlast⟩ := Lines.of_mem_pieces (show 0 < INI_MAX_LINE - 1 by decide)
    (by decide) (Nat.le_refl _) hl
  have hpre := ofBytes_initial l
  refine ⟨(CString.ofBytes l).noNul, ?_, ?_⟩
  · obtain ⟨u, hu⟩ := hpre
    intro h10
    apply hlast
    rw [← hu]
    rcases u with _ | ⟨c, u⟩
    · rwa [List.append_nil]
    · rw [List.dropLast_append_of_ne_nil (List.cons_ne_nil c u)]
      exact List.mem_append_left _ (List.dropLast_subset _ h10)
  · have hle := hpre.length_le
    have hmax : INI_MAX_LINE - 1 + 1 = INI_MAX_LINE := rfl
    omega

theorem isLine_of_mem_linesOf {content text : List UInt8} (h : text ∈ linesOf content) :
    IsLine text := by
  have hall := fun t => @isLine_of_mem_received content t
  unfold linesOf at h
  revert h hall
  rcases received content with _ | ⟨l, ls⟩
  · intro h _
    exact absurd h List.not_mem_nil
  · intro h hall
    rcases List.mem_cons.mp h with rfl | h
    · -- the first line may have lost its byte order mark
      have hl := hall l List.mem_cons_self
      unfold dropBom
      split
      · exact hl.within (List.drop_suffix 3 l).isInfix
      · exact hl
    · exact hall text (List.mem_cons_of_mem l h)

/-! ## Section 5: Every run -/

/-- A name as it is remembered: what fits of one. -/
def IsPrevName (s : List UInt8) : Prop := ∃ n, IsName n ∧ s = n.take (MAX_NAME - 1)

/-- The invariant of the context. -/
structure ContextOk (ctx : Context) : Prop where
  title : IsTitle ctx.section_
  title_fits : ctx.section_.length < MAX_SECTION
  prev_name : IsPrevName ctx.prev_name

/-- An assignment as it is handed over: a name with its value, or a name as it is
    remembered with one more line of the value. -/
structure Handed (a : Assignment) : Prop where
  title : IsTitle a.section_.bytes
  title_fits : a.section_.length < MAX_SECTION
  name_value :
    (IsName a.name.bytes ∧ IsValue a.value.bytes ∧
        a.name.length + 1 + a.value.length < INI_MAX_LINE) ∨
      (IsPrevName a.name.bytes ∧ a.name.bytes ≠ [] ∧ IsContinuation a.value.bytes ∧
        a.value.length + 1 < INI_MAX_LINE)

theorem IsTitle.take {t : List UInt8} (h : IsTitle t) (k : Nat) : IsTitle (t.take k) :=
  ⟨h.one_line.of_subset (List.take_subset k t), h.plain.initial (List.take_prefix k t)⟩

theorem IsPrevName.noNul {s : List UInt8} (h : IsPrevName s) : 0 ∉ s := by
  obtain ⟨n, hn, rfl⟩ := h
  exact fun h0 => hn.one_line.1 (List.take_subset _ n h0)

theorem isPrevName_nil : IsPrevName [] :=
  ⟨[], ⟨by decide, by decide, by decide, by decide⟩, rfl⟩

theorem contextOk_start : ContextOk .start :=
  ⟨⟨by decide, by decide⟩, by decide, isPrevName_nil⟩

/-- The section that is handed over with a line is the context's. -/
theorem ContextOk.handed_title {ctx : Context} (h : ContextOk ctx) :
    IsTitle (CString.ofBytes ctx.section_).bytes ∧
      (CString.ofBytes ctx.section_).length < MAX_SECTION := by
  unfold CString.length
  rw [CString.ofBytes_bytes h.title.one_line.1]
  exact ⟨h.title, h.title_fits⟩

/-- A line keeps the invariant, and what it names is well formed. -/
theorem Reads.ok {ctx : Context} {room : Nat} {r : Context × Line} (hctx : ContextOk ctx)
    (hroom : room < INI_MAX_LINE) (h : Reads ctx room r) :
    ContextOk r.1 ∧ ∀ a ∈ r.2.assignment?, Handed a := by
  obtain ⟨htitle, htitle_fits⟩ := hctx.handed_title
  have hnothing : ∀ a ∈ (none : Option Assignment), Handed a := fun a ha => by cases ha
  rcases h with _ | _ | ⟨hv, named, fits⟩ | ⟨ht, fits⟩ | @⟨n, v, hn, hv, fits⟩
  · exact ⟨hctx, hnothing⟩
  · exact ⟨hctx, hnothing⟩
  · refine ⟨hctx, ?_⟩
    intro a ha
    obtain rfl := Option.some.inj ha
    have hprev := CString.ofBytes_bytes hctx.prev_name.noNul
    have hvalue := CString.ofBytes_bytes hv.one_line.1
    refine ⟨htitle, htitle_fits, Or.inr ⟨?_, ?_, ?_, ?_⟩⟩
    · rw [hprev]
      exact hctx.prev_name
    · rw [hprev]
      exact named
    · rw [hvalue]
      exact hv
    · unfold CString.length
      rw [hvalue]
      omega
  · -- a new section; the name is forgotten
    refine ⟨⟨ht.take _, ?_, isPrevName_nil⟩, hnothing⟩
    show (List.take (MAX_SECTION - 1) _).length < MAX_SECTION
    rw [List.length_take]
    exact Nat.lt_of_le_of_lt (Nat.min_le_left _ _) (by decide)
  · refine ⟨⟨hctx.title, hctx.title_fits, n, hn, rfl⟩, ?_⟩
    intro a ha
    obtain rfl := Option.some.inj ha
    have hname := CString.ofBytes_bytes hn.one_line.1
    have hvalue := CString.ofBytes_bytes hv.one_line.1
    refine ⟨htitle, htitle_fits, Or.inl ⟨?_, ?_, ?_⟩⟩
    · rw [hname]
      exact hn
    · rw [hvalue]
      exact hv
    · unfold CString.length
      rw [hname, hvalue]
      omega

/-- All lines, by induction: the invariant carries the context. -/
theorem handed_of_mem_readLines {ctx : Context} (hctx : ContextOk ctx)
    {texts : List (List UInt8)} (htexts : ∀ text ∈ texts, IsLine text) {a : Assignment}
    (ha : a ∈ (readLines ctx texts).filterMap Line.assignment?) : Handed a := by
  induction texts generalizing ctx with
  | nil => exact absurd ha List.not_mem_nil
  | cons text texts ih =>
    have hline := htexts text List.mem_cons_self
    obtain ⟨hnext, hhere⟩ := (readLine_reads ctx hline.one_line).ok hctx hline.fits
    obtain ⟨l, hl, hla⟩ := List.mem_filterMap.mp ha
    rcases List.mem_cons.mp hl with rfl | hl
    · exact hhere a hla
    · exact ih hnext (fun t ht => htexts t (List.mem_cons_of_mem text ht))
        (List.mem_filterMap.mpr ⟨l, hl, hla⟩)

/-- **The handler's arguments**, in every run of the parser and for every handler.
    A section and a remembered name fit their buffers, names and values are
    trimmed and in one line, and no delimiter, bracket or comment is left. -/
theorem handler_arguments {σ : Type} (handler : Handler σ) (line : Block INI_MAX_LINE)
    (content : List UInt8) (user user' : σ) (error : Int) (calls : List Assignment)
    (h : ini_parse_file (recording handler) line content (user, []) = .ok (error, user', calls)) :
    ∀ a ∈ calls, Handed a := by
  intro a ha
  rw [ini_parse_file_eq] at h
  split at h
  · rw [foldl_recording, List.nil_append] at h
    have hcalls : assignments content = calls :=
      congrArg (fun r => r.2.2) (Except.ok.inj h)
    rw [← hcalls] at ha
    exact handed_of_mem_readLines contextOk_start (fun text => isLine_of_mem_linesOf) ha
  · exact absurd h (by simp)

/-- A section and an assignment with an inline comment. -/
theorem handler_arguments_example :
    Handed ⟨CString.ofString "plugin", CString.ofString "show_welcome",
      CString.ofString "false"⟩ :=
  handler_arguments (fun _ _ _ _ => (1, ())) (.zero _)
    (lit "[plugin]\nshow_welcome = false  ; no greeting\n") () () 0 _ rfl _ List.mem_cons_self

end Inih
