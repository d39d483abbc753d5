import TeamspeakNotifications.Properties.IniEntries

/-! # Documents and their texts

    A document is what the author of a configuration file means: sections,
    entries, further lines of a value, and lines that say nothing. Its text may
    be laid out in many ways.

    * `Heading`, `Entry`, `More`, `Filler`: the kinds of lines, with the layout.
    * `Document`: such lines, a value being gone on with only where there is one.
    * `readLine_heading` .. `readLine_filler`: each kind is read back.
    * `parse_render`: the parser reads back every document from its text.
    * `exists_document`: it reads nothing else from any text.
-/

namespace Inih

open CLib TeamspeakNotifications

/-! ## Section 1: Documents -/

/-- Whitespace within a line. -/
def IsGap (s : List UInt8) : Prop := ∀ c ∈ s, isspace c = true ∧ c ≠ 10

instance (s : List UInt8) : Decidable (IsGap s) := List.decidableBAll _ s

theorem isGap_nil : IsGap [] := fun _ hc => absurd hc List.not_mem_nil

/-- A comment, from its first character on. -/
structure IsRemark (s : List UInt8) : Prop where
  one_line : OneLine s
  head : s.headD 0 = 59 ∨ s.headD 0 = 35

/-- What may stand behind a value: a gap, and an inline comment if there is one. -/
structure IsTrailer (gap remark : List UInt8) : Prop where
  isGap : IsGap gap
  one_line : OneLine remark
  head : remark = [] ∨ (gap ≠ [] ∧ remark.headD 0 = 59)

/-- `[title]`, and anything behind it. -/
structure Heading where
  title : List UInt8
  rest : List UInt8
  isTitle : IsTitle title
  rest_ok : OneLine rest
  fits : title.length + 2 + rest.length < INI_MAX_LINE

/-- `name = value`, with gaps and perhaps an inline comment. -/
structure Entry where
  name : List UInt8
  gap₁ : List UInt8
  delim : UInt8
  gap₂ : List UInt8
  value : List UInt8
  gap₃ : List UInt8
  remark : List UInt8
  isName : IsName name
  isGap₁ : IsGap gap₁
  delim_ok : delim = 61 ∨ delim = 58
  isGap₂ : IsGap gap₂
  isValue : IsValue value
  trailer : IsTrailer gap₃ remark
  /-- An entry without a name is not indented. -/
  start_ok : name = [] → gap₁ = []
  /-- A value behind a gap does not begin as a comment does. -/
  plain : Plain none (gap₂ ++ value)
  fits : (name ++ gap₁ ++ delim :: (gap₂ ++ value ++ gap₃ ++ remark)).length < INI_MAX_LINE

/-- One more line of the value before. -/
structure More where
  indent : List UInt8
  text : List UInt8
  gap : List UInt8
  isGap : IsGap indent
  indented : indent ≠ []
  isText : IsContinuation text
  gap_ok : IsGap gap
  fits : (indent ++ text ++ gap).length < INI_MAX_LINE

/-- A comment or a blank line. -/
structure Filler where
  indent : List UInt8
  remark : List UInt8
  isGap : IsGap indent
  remark_ok : remark = [] ∨ IsRemark remark
  fits : (indent ++ remark).length < INI_MAX_LINE

inductive Item where
  | heading (h : Heading)
  | entry (e : Entry)
  | more (m : More)
  | filler (f : Filler)

/-- The line of an item, without its newline. -/
def Item.body : Item → List UInt8
  | .heading h => 91 :: (h.title ++ 93 :: h.rest)
  | .entry e => e.name ++ e.gap₁ ++ e.delim :: (e.gap₂ ++ e.value ++ e.gap₃ ++ e.remark)
  | .more m => m.indent ++ m.text ++ m.gap
  | .filler f => f.indent ++ f.remark

/-- A value is gone on with only where there is a name to go on with. -/
def Orderly : Bool → List Item → Prop
  | _, [] => True
  | _, .heading _ :: items => Orderly false items
  | _, .entry e :: items => Orderly (e.name ≠ []) items
  | named, .more _ :: items => named = true ∧ Orderly named items
  | named, .filler _ :: items => Orderly named items

def renderItems (items : List Item) : List UInt8 := items.flatMap fun i => i.body ++ [10]

structure Document where
  items : List Item
  orderly : Orderly false items
  /-- The text does not begin as if it were marked. -/
  unmarked : BOM.isPrefixOf (renderItems items) = false

/-- The text of a document. -/
def Document.render (doc : Document) : List UInt8 := renderItems doc.items

/-- What the items say in a section and after a name. A name is remembered, and
    a section named, up to the size of the buffer. -/
def meaningFrom : Context → List Item → List Assignment
  | _, [] => []
  | _, .heading h :: items => meaningFrom ⟨h.title.take (MAX_SECTION - 1), []⟩ items
  | ctx, .entry e :: items =>
    ⟨.ofBytes ctx.section_, .ofBytes e.name, .ofBytes e.value⟩ ::
      meaningFrom ⟨ctx.section_, e.name.take (MAX_NAME - 1)⟩ items
  | ctx, .more m :: items =>
    ⟨.ofBytes ctx.section_, .ofBytes ctx.prev_name, .ofBytes m.text⟩ :: meaningFrom ctx items
  | ctx, .filler _ :: items => meaningFrom ctx items

def Document.meaning (doc : Document) : List Assignment := meaningFrom .start doc.items

/-! ## Section 2: Gaps -/

theorem not_space_of_mem {c : UInt8} (h : c ∈ [0, 35, 58, 59, 61, 91, 93]) :
    isspace c = false := by
  simp only [List.mem_cons, List.not_mem_nil, or_false] at h
  rcases h with rfl | rfl | rfl | rfl | rfl | rfl | rfl <;> rfl

theorem findStep_of_space {chars : Option CString}
    (hchars : ∀ c, isspace c = true → chars.any (strchr · c) = false) (b : Bool) {c : UInt8}
    (hc : isspace c = true) : findStep chars b c = some true := by
  have hsemi : c ≠ 0 ∧ c ≠ 59 := by
    refine ⟨?_, ?_⟩
    · rintro rfl
      exact absurd hc (by decide)
    · rintro rfl
      exact absurd hc (by decide)
  have hinline : strchr INI_INLINE_COMMENT_PREFIXES c = false := by
    have hbytes : INI_INLINE_COMMENT_PREFIXES.bytes = [59] := by decide
    simp [strchr, hbytes, hsemi.1, hsemi.2]
  unfold findStep
  rw [if_pos ⟨hsemi.1, by rw [hchars c hc]; decide, fun hand => by simp [hinline] at hand⟩, hc]

theorem spaces_none : ∀ c, isspace c = true → (none : Option CString).any (strchr · c) = false :=
  fun _ _ => rfl

theorem spaces_delim : ∀ c, isspace c = true →
    (some (CString.ofString "=:")).any (strchr · c) = false := by
  intro c hc
  have hbytes : (CString.ofString "=:").bytes = [61, 58] := by decide
  have hne : ∀ d ∈ [0, 35, 58, 59, 61, 91, 93], c ≠ d := by
    rintro d hd rfl
    rw [not_space_of_mem hd] at hc
    exact absurd hc (by decide)
  have h0 := hne 0 (by decide)
  have h61 := hne 61 (by decide)
  have h58 := hne 58 (by decide)
  simp [strchr, hbytes, h0, h61, h58]

section gaps

variable {chars : Option CString}
  (hchars : ∀ c, isspace c = true → chars.any (strchr · c) = false)

include hchars

theorem passes_gap {g : List UInt8} (hg : IsGap g) (b : Bool) : Passes (findStep chars) b g := by
  induction g generalizing b with
  | nil => rfl
  | cons c g ih =>
    have hc := (hg c List.mem_cons_self).1
    exact passes_cons.mpr ⟨true, findStep_of_space hchars b hc,
      ih (fun d hd => hg d (List.mem_cons_of_mem c hd)) true⟩

/-- Behind a gap, a semicolon begins a comment. -/
theorem walk_gap_remark {g : List UInt8} (hg : IsGap g) (hne : g ≠ []) (b : Bool)
    (r : List UInt8) : walk (findStep chars) b (g ++ 59 :: r) = (g, 59 :: r) := by
  induction g generalizing b with
  | nil => exact absurd rfl hne
  | cons c g ih =>
    have hc := (hg c List.mem_cons_self).1
    rw [List.cons_append, walk_cons_of_some (findStep_of_space hchars b hc)]
    rcases g with _ | ⟨d, g⟩
    · have hstop : findStep chars true 59 = none :=
        if_neg (fun hand => hand.2.2 ⟨rfl, by decide⟩)
      rw [List.nil_append, walk_cons_of_none hstop]
    · rw [ih (fun e he => hg e (List.mem_cons_of_mem c he)) (List.cons_ne_nil d g)]

end gaps

/-! ## Section 3: Trimming -/

theorem trimRight_append_of_not {c : UInt8} (hc : isspace c = false) (a s : List UInt8) :
    trimRight (a ++ c :: s) = a ++ c :: trimRight s := by
  induction s using List.reverseRecOn with
  | nil =>
    have hnot : ¬ isspace c = true := by rw [hc]; decide
    rw [show a ++ [c] = a ++ [c] from rfl, trimRight_concat_of_not hnot]
    rfl
  | append_singleton s d ih =>
    rw [show a ++ c :: (s ++ [d]) = a ++ c :: s ++ [d] from by simp]
    by_cases hd : isspace d = true
    · rw [trimRight_concat_of_space hd, trimRight_concat_of_space hd, ih]
    · rw [trimRight_concat_of_not hd, trimRight_concat_of_not hd]
      simp

theorem trimRight_gap {g : List UInt8} (hg : IsGap g) (s : List UInt8) :
    trimRight (s ++ g) = trimRight s := trimRight_append s g (fun c hc => (hg c hc).1)

theorem trimLeft_gap {g : List UInt8} (hg : IsGap g) (s : List UInt8) :
    trimLeft (g ++ s) = trimLeft s :=
  List.dropWhile_append_of_pos (fun c hc => (hg c hc).1)

theorem trimLeft_append {s : List UInt8} (hs : trimLeft s = s) (hne : s ≠ []) (t : List UInt8) :
    trimLeft (s ++ t) = s ++ t := by
  rw [trimLeft_eq_self_iff] at hs ⊢
  intro c hc
  rw [List.head?_append_of_ne_nil s hne] at hc
  exact hs c hc

theorem trimRight_append_of_trimmed {s : List UInt8} (hs : trimRight s = s) (hne : s ≠ [])
    (a : List UInt8) : trimRight (a ++ s) = a ++ s := by
  rw [trimRight_eq_self_iff] at hs ⊢
  intro c hc
  -- the last byte is that of `s`
  rw [List.getLast?_append_of_ne_nil a hne] at hc
  exact hs c hc

/-- A value is found between the gaps. -/
theorem trim_between {v g h : List UInt8} (hv : Trimmed v) (hg : IsGap g) (hh : IsGap h) :
    trimRight (trimLeft (g ++ v ++ h)) = v := by
  rw [List.append_assoc, trimLeft_gap hg]
  by_cases hne : v = []
  · subst hne
    have hall := trimLeft_gap hh []
    rw [List.append_nil] at hall
    rw [List.nil_append, hall]
    rfl
  · rw [trimLeft_append hv.1 hne, trimRight_gap hh, hv.2]

/-! ## Section 4: Each kind of line is read back -/

theorem not_comment {c : UInt8} (h0 : c ≠ 0) (h59 : c ≠ 59) (h35 : c ≠ 35) :
    ¬ strchr INI_START_COMMENT_PREFIXES c = true := by
  have hbytes : INI_START_COMMENT_PREFIXES.bytes = [59, 35] := by decide
  simp [strchr, hbytes, h0, h59, h35]

section lines

variable {ctx : Context}

/-- The newline, if it has arrived with the line, does not matter. -/
theorem readLine_newline (s : List UInt8) : readLine ctx (s ++ [10]) = readLine ctx s := by
  unfold readLine
  rw [trimRight_concat_of_space (by decide)]

theorem readLine_remark {r : List UInt8} (h : r.headD 0 = 59 ∨ r.headD 0 = 35)
    {g : List UInt8} (hg : IsGap g) : readLine ctx (g ++ r) = (ctx, .silent) := by
  obtain ⟨c, r, rfl⟩ := exists_cons_of_headD (s := r) (by
    rcases h with heq | heq <;> rw [heq] <;> decide)
  have hc : isspace c = false := by
    rcases h with rfl | rfl <;> rfl
  have hcomment : strchr INI_START_COMMENT_PREFIXES c = true := by
    rcases h with rfl | rfl <;> decide
  have hnot : ¬ isspace c = true := by rw [hc]; decide
  have hbody : trimLeft (trimRight (g ++ c :: r)) = c :: trimRight r := by
    rw [trimRight_append_of_not hc, trimLeft_gap hg]
    exact List.dropWhile_cons_of_neg hnot
  unfold readLine
  dsimp only
  rw [hbody, if_pos (show strchr INI_START_COMMENT_PREFIXES ((c :: trimRight r).headD 0) = true
    from hcomment)]

theorem readLine_filler (f : Filler) :
    readLine ctx (Item.filler f).body = (ctx, .silent) := by
  show readLine ctx (f.indent ++ f.remark) = _
  rcases f.remark_ok with hnil | hremark
  · rw [hnil, List.append_nil]
    have htext : trimRight f.indent = [] := trimRight_gap f.isGap []
    unfold readLine
    rw [htext]
    rfl
  · exact readLine_remark hremark.head f.isGap

theorem readLine_more (m : More) (hnamed : ctx.prev_name ≠ []) :
    readLine ctx (Item.more m).body =
      (ctx, .pair ⟨.ofBytes ctx.section_, .ofBytes ctx.prev_name, .ofBytes m.text⟩) := by
  have htext : trimRight (m.indent ++ m.text ++ m.gap) = m.indent ++ m.text := by
    rw [trimRight_gap m.gap_ok]
    exact trimRight_append_of_trimmed m.isText.trimmed.2 m.isText.nonempty m.indent
  have hbody : trimLeft (m.indent ++ m.text) = m.text := by
    rw [trimLeft_gap m.isGap, m.isText.trimmed.1]
  have hcomment := not_comment ((headD_ne_zero m.isText.one_line.1).mpr m.isText.nonempty)
    m.isText.head.1 m.isText.head.2
  have hindent := List.length_pos_iff.mpr m.indented
  show readLine ctx (m.indent ++ m.text ++ m.gap) = _
  unfold readLine
  dsimp only
  rw [htext, hbody, if_neg hcomment, if_pos ⟨hnamed, by rw [List.length_append]; omega⟩]

theorem readLine_heading (h : Heading) :
    readLine ctx (Item.heading h).body = (⟨h.title.take (MAX_SECTION - 1), []⟩, .silent) := by
  have htext : trimRight (91 :: (h.title ++ 93 :: h.rest)) =
      91 :: (h.title ++ 93 :: trimRight h.rest) := by
    rw [← List.cons_append, trimRight_append_of_not (by decide), List.cons_append]
  have hbody : trimLeft (91 :: (h.title ++ 93 :: trimRight h.rest)) =
      91 :: (h.title ++ 93 :: trimRight h.rest) := List.dropWhile_cons_of_neg (by decide)
  have hcut : upTo (some (CString.ofString "]")) (h.title ++ 93 :: trimRight h.rest) =
      (h.title, 93 :: trimRight h.rest) := by
    refine Passes.walk_stop h.isTitle.plain (fun b => if_neg ?_) _
    rintro ⟨_, hno, _⟩
    exact hno (by decide)
  have hcomment : ¬ strchr INI_START_COMMENT_PREFIXES 91 = true := by decide
  show readLine ctx (91 :: (h.title ++ 93 :: h.rest)) = _
  unfold readLine
  dsimp only
  rw [htext, hbody]
  show (if strchr INI_START_COMMENT_PREFIXES 91 = true then _ else _) = _
  rw [if_neg hcomment, if_neg (fun hand => absurd hand.2 (Nat.lt_irrefl _))]
  show readSection ctx (h.title ++ 93 :: trimRight h.rest) = _
  unfold readSection
  rw [hcut]
  rfl

/-- The part of an entry behind its delimiter, with or without the whitespace at
    its end. -/
theorem value_of_tail (e : Entry) :
    trimRight (trimLeft (upTo none (trimRight (e.gap₂ ++ e.value ++ e.gap₃ ++ e.remark))).1) =
      e.value := by
  rcases e.trailer.head with hnil | ⟨hgap, hsemi⟩
  · -- no comment: the tail ends with the value
    rw [hnil, List.append_nil, trimRight_gap e.trailer.isGap]
    have hplain : Plain none (trimRight (e.gap₂ ++ e.value)) :=
      e.plain.initial (List.rdropWhile_prefix isspace _)
    have hcut : upTo none (trimRight (e.gap₂ ++ e.value)) =
      (trimRight (e.gap₂ ++ e.value), []) := hplain
    rw [hcut]
    have hvalue := trim_between (h := []) e.isValue.trimmed e.isGap₂ (by decide)
    rw [List.append_nil] at hvalue
    by_cases hne : e.value = []
    · rw [hne, List.append_nil]
      have hall : trimRight e.gap₂ = [] := trimRight_gap e.isGap₂ []
      rw [hall]
      rfl
    · -- nothing is cut off where the value ends
      rw [trimRight_append_of_trimmed e.isValue.trimmed.2 hne]
      exact hvalue
  · -- the comment is cut off, and the gap before it trimmed
    obtain ⟨r, hr⟩ : ∃ r, e.remark = 59 :: r := by
      rcases hremark : e.remark with _ | ⟨c, r⟩
      · rw [hremark] at hsemi
        exact absurd hsemi (by decide)
      · rw [hremark] at hsemi
        exact ⟨r, congrArg (· :: r) hsemi⟩
    rw [hr, trimRight_append_of_not (by decide)]
    have hcut : upTo none (e.gap₂ ++ e.value ++ e.gap₃ ++ 59 :: trimRight r) =
        (e.gap₂ ++ e.value ++ e.gap₃, 59 :: trimRight r) := by
      obtain ⟨b, hwalk⟩ := Passes.walk_append e.plain
      have hgap₃ := walk_gap_remark spaces_none e.trailer.isGap hgap b (trimRight r)
      unfold upTo
      rw [List.append_assoc (e.gap₂ ++ e.value), hwalk, hgap₃]
    rw [hcut]
    exact trim_between e.isValue.trimmed e.isGap₂ e.trailer.isGap

theorem readLine_entry (e : Entry) :
    readLine ctx (Item.entry e).body = (⟨ctx.section_, e.name.take (MAX_NAME - 1)⟩,
      .pair ⟨.ofBytes ctx.section_, .ofBytes e.name, .ofBytes e.value⟩) := by
  have hdelim : isspace e.delim = false := by
    rcases e.delim_ok with hd | hd <;> rw [hd] <;> rfl
  have hvalue := value_of_tail e
  show readLine ctx
    (e.name ++ e.gap₁ ++ e.delim :: (e.gap₂ ++ e.value ++ e.gap₃ ++ e.remark)) = _
  generalize e.gap₂ ++ e.value ++ e.gap₃ ++ e.remark = tail at hvalue
  have htext : trimRight (e.name ++ e.gap₁ ++ e.delim :: tail) =
      e.name ++ e.gap₁ ++ e.delim :: trimRight tail := trimRight_append_of_not hdelim _ _
  -- the line begins with the name or, if there is none, with the delimiter
  have hhead : (e.name ++ e.gap₁ ++ e.delim :: trimRight tail).headD 0 = e.name.headD e.delim := by
    rcases hname : e.name with _ | ⟨c, name⟩
    · rw [e.start_ok hname]
      rfl
    · rfl
  have hbody : trimLeft (e.name ++ e.gap₁ ++ e.delim :: trimRight tail) =
      e.name ++ e.gap₁ ++ e.delim :: trimRight tail := by
    rcases hname : e.name with _ | ⟨c, name⟩
    · rw [e.start_ok hname]
      exact List.dropWhile_cons_of_neg (by rw [hdelim]; decide)
    · have htrim := e.isName.trimmed.1
      rw [hname] at htrim
      rw [List.append_assoc]
      exact trimLeft_append htrim (List.cons_ne_nil c name) _
  -- so it is no comment and no section
  have hfirst : ∀ d ∈ [0, 35, 59, 91], e.name.headD e.delim ≠ d := by
    intro d hd
    rcases hname : e.name with _ | ⟨c, name⟩
    · show e.delim ≠ d
      simp only [List.mem_cons, List.not_mem_nil, or_false] at hd
      rcases e.delim_ok with hdel | hdel <;> rw [hdel] <;>
        rcases hd with rfl | rfl | rfl | rfl <;> decide
    · have hstart := e.isName.head
      have hno := e.isName.one_line.1
      rw [hname] at hstart hno
      rw [List.mem_cons, not_or] at hno
      show c ≠ d
      simp only [List.mem_cons, List.not_mem_nil, or_false] at hd
      rcases hd with rfl | rfl | rfl | rfl
      · exact fun heq => hno.1 heq.symm
      · exact hstart.2.1
      · exact hstart.1
      · exact hstart.2.2
  have hcomment := not_comment (hfirst 0 (by decide)) (hfirst 59 (by decide))
    (hfirst 35 (by decide))
  have hcut : upTo (some (CString.ofString "=:")) (e.name ++ e.gap₁ ++ e.delim :: trimRight tail) =
      (e.name ++ e.gap₁, e.delim :: trimRight tail) := by
    refine Passes.walk_stop (Passes.append e.isName.plain
      (passes_gap spaces_delim e.isGap₁)) (fun b => if_neg ?_) _
    rintro ⟨_, hno, _⟩
    refine hno ?_
    rcases e.delim_ok with hd | hd <;> rw [hd] <;> decide
  unfold readLine
  dsimp only
  rw [htext, hbody, hhead, if_neg hcomment,
    if_neg (fun hand => absurd hand.2 (Nat.lt_irrefl _)), if_neg (hfirst 91 (by decide))]
  unfold readPair
  dsimp only
  rw [hcut]
  dsimp only
  rw [if_pos (show (e.delim :: trimRight tail).headD 0 = 61 ∨
      (e.delim :: trimRight tail).headD 0 = 58 from e.delim_ok),
    List.tail_cons, hvalue, trimRight_gap e.isGap₁, e.isName.trimmed.2]

end lines

/-! ## Section 5: A document is read back -/

theorem oneLine_append {s t : List UInt8} : OneLine (s ++ t) ↔ OneLine s ∧ OneLine t := by
  unfold OneLine
  simp only [List.mem_append, not_or]
  constructor
  · rintro ⟨⟨h1, h2⟩, h3, h4⟩
    exact ⟨⟨h1, h3⟩, h2, h4⟩
  · rintro ⟨⟨h1, h3⟩, h2, h4⟩
    exact ⟨⟨h1, h2⟩, h3, h4⟩

theorem oneLine_cons {c : UInt8} {s : List UInt8} :
    OneLine (c :: s) ↔ (c ≠ 0 ∧ c ≠ 10) ∧ OneLine s := by
  unfold OneLine
  simp only [List.mem_cons, not_or]
  constructor
  · rintro ⟨⟨h1, h2⟩, h3, h4⟩
    exact ⟨⟨fun heq => h1 heq.symm, fun heq => h3 heq.symm⟩, h2, h4⟩
  · rintro ⟨⟨h1, h3⟩, h2, h4⟩
    exact ⟨⟨fun heq => h1 heq.symm, h2⟩, fun heq => h3 heq.symm, h4⟩

theorem IsGap.one_line {g : List UInt8} (h : IsGap g) : OneLine g := by
  refine ⟨?_, ?_⟩
  · intro h0
    exact absurd (h 0 h0).1 (by decide)
  · intro h10
    exact (h 10 h10).2 rfl

theorem Item.body_ok (i : Item) : OneLine i.body ∧ i.body.length < INI_MAX_LINE := by
  rcases i with h | e | m | f
  · refine ⟨?_, ?_⟩
    · exact oneLine_cons.mpr ⟨by decide, oneLine_append.mpr ⟨h.isTitle.one_line,
        oneLine_cons.mpr ⟨by decide, h.rest_ok⟩⟩⟩
    · have hfits := h.fits
      show (91 :: (h.title ++ 93 :: h.rest)).length < INI_MAX_LINE
      rw [List.length_cons, List.length_append, List.length_cons]
      omega
  · have hdelim : e.delim ≠ 0 ∧ e.delim ≠ 10 := by
      rcases e.delim_ok with hd | hd <;> rw [hd] <;> decide
    refine ⟨?_, e.fits⟩
    refine oneLine_append.mpr ⟨oneLine_append.mpr ⟨e.isName.one_line, e.isGap₁.one_line⟩,
      oneLine_cons.mpr ⟨hdelim, ?_⟩⟩
    exact oneLine_append.mpr ⟨oneLine_append.mpr
      ⟨oneLine_append.mpr ⟨e.isGap₂.one_line, e.isValue.one_line⟩, e.trailer.isGap.one_line⟩,
      e.trailer.one_line⟩
  · exact ⟨oneLine_append.mpr ⟨oneLine_append.mpr ⟨m.isGap.one_line, m.isText.one_line⟩,
      m.gap_ok.one_line⟩, m.fits⟩
  · refine ⟨oneLine_append.mpr ⟨f.isGap.one_line, ?_⟩, f.fits⟩
    rcases f.remark_ok with hnil | hremark
    · rw [hnil]
      exact ⟨List.not_mem_nil, List.not_mem_nil⟩
    · exact hremark.one_line

/-- How a line arrives in the buffer: with its newline, or before it if there is
    no room for that. -/
def arrive (body : List UInt8) : List (List UInt8) :=
  if body.length < INI_MAX_LINE - 1 then [body ++ [10]] else [body, [10]]

theorem received_cons {body : List UInt8} (hline : OneLine body)
    (hfits : body.length < INI_MAX_LINE) (rest : List UInt8) :
    received (body ++ 10 :: rest) = arrive body ++ received rest := by
  have hbody : (CString.ofBytes body).bytes = body := CString.ofBytes_bytes hline.1
  unfold received arrive
  by_cases hroom : body.length < INI_MAX_LINE - 1
  · have hends : (CString.ofBytes (body ++ [10])).bytes = body ++ [10] :=
      CString.ofBytes_bytes (by simp [hline.1])
    rw [if_pos hroom, Lines.pieces_line hline.2 hroom, List.map_cons, hends]
    rfl
  · -- the line fills the buffer, and its newline comes with the next call
    have hfull : body.length = INI_MAX_LINE - 1 := by omega
    have hne : body ≠ [] := by
      rintro rfl
      exact absurd hfull (by decide)
    have hpieces := Lines.pieces_full (INI_MAX_LINE - 1) hline.2 hne (10 :: rest)
    rw [hfull, Lines.pieces_cons_of_end (Or.inl rfl)] at hpieces
    rw [if_neg hroom, hpieces, List.map_cons, List.map_cons, hbody]
    rfl

theorem readLines_arrive (ctx : Context) (body : List UInt8) (texts : List (List UInt8)) :
    (∀ l, l ∈ readLines ctx (arrive body ++ texts) →
        l = (readLine ctx body).2 ∨ l = .silent ∨ l ∈ readLines (readLine ctx body).1 texts) ∧
      (readLines ctx (arrive body ++ texts)).filterMap Line.assignment? =
        (readLine ctx body).2.assignment?.toList ++
          (readLines (readLine ctx body).1 texts).filterMap Line.assignment? := by
  have hcons : ∀ (l : Line) (ls : List Line), (l :: ls).filterMap Line.assignment? =
      l.assignment?.toList ++ ls.filterMap Line.assignment? := by
    intro l ls
    rcases l with _ | a | _ <;> rfl
  unfold arrive
  split
  · show (∀ l, l ∈ (readLine ctx (body ++ [10])).2 :: readLines (readLine ctx (body ++ [10])).1 texts →
      _) ∧ ((readLine ctx (body ++ [10])).2 ::
        readLines (readLine ctx (body ++ [10])).1 texts).filterMap _ = _
    rw [readLine_newline]
    refine ⟨?_, hcons _ _⟩
    intro l hl
    rcases List.mem_cons.mp hl with hl | hl
    · exact Or.inl hl
    · exact Or.inr (Or.inr hl)
  · show (∀ l, l ∈ (readLine ctx body).2 :: .silent :: readLines (readLine ctx body).1 texts → _) ∧
      ((readLine ctx body).2 :: .silent :: readLines (readLine ctx body).1 texts).filterMap _ = _
    refine ⟨?_, hcons _ _⟩
    intro l hl
    rcases List.mem_cons.mp hl with hl | hl
    · exact Or.inl hl
    · rcases List.mem_cons.mp hl with hl | hl
      · exact Or.inr (Or.inl hl)
      · exact Or.inr (Or.inr hl)

/-- Of a name that is not empty, something is remembered. -/
theorem remembered_ne_nil {name : List UInt8} : name.take (MAX_NAME - 1) ≠ [] ↔ name ≠ [] := by
  rcases name with _ | ⟨c, name⟩
  · exact Iff.rfl
  · exact ⟨fun _ => List.cons_ne_nil c name, fun _ => List.cons_ne_nil c _⟩

/-- The items are read one after the other; the context is the one they mean. -/
theorem readLines_items {named : Bool} {ctx : Context}
    (hnamed : named = true → ctx.prev_name ≠ []) {items : List Item}
    (h : Orderly named items) :
    (∀ l ∈ readLines ctx (received (renderItems items)), l ≠ .malformed) ∧
      (readLines ctx (received (renderItems items))).filterMap Line.assignment? =
        meaningFrom ctx items := by
  induction items generalizing named ctx with
  | nil => exact ⟨fun l hl => absurd hl List.not_mem_nil, rfl⟩
  | cons i items ih =>
    have hrender : renderItems (i :: items) = i.body ++ 10 :: renderItems items := by
      unfold renderItems
      rw [List.flatMap_cons, List.append_assoc]
      rfl
    obtain ⟨hline, hfits⟩ := i.body_ok
    rw [hrender, received_cons hline hfits]
    obtain ⟨hall, hfilter⟩ := readLines_arrive ctx i.body (received (renderItems items))
    rw [hfilter]
    -- each kind of item says what it means and leaves the context it means
    suffices hstep : (readLine ctx i.body).2 ≠ .malformed ∧
        (∀ l ∈ readLines (readLine ctx i.body).1 (received (renderItems items)), l ≠ .malformed) ∧
        (readLine ctx i.body).2.assignment?.toList ++
          (readLines (readLine ctx i.body).1 (received (renderItems items))).filterMap
            Line.assignment? = meaningFrom ctx (i :: items) by
      refine ⟨?_, hstep.2.2⟩
      intro l hl
      rcases hall l hl with rfl | rfl | hrest
      · exact hstep.1
      · exact fun heq => Line.noConfusion heq
      · exact hstep.2.1 l hrest
    rcases i with heading | e | m | f
    · -- a section forgets the name
      rw [readLine_heading]
      have hnamed' : false = true → (Context.mk (heading.title.take (MAX_SECTION - 1)) []).prev_name ≠ [] :=
        fun hf => absurd hf (by decide)
      obtain ⟨hok, hmean⟩ := ih hnamed' h
      exact ⟨fun heq => Line.noConfusion heq, hok, hmean⟩
    · -- an entry is to be remembered
      rw [readLine_entry]
      have hnamed' : decide (e.name ≠ []) = true →
          (Context.mk ctx.section_ (e.name.take (MAX_NAME - 1))).prev_name ≠ [] := by
        intro hname
        exact remembered_ne_nil.mpr (by simpa using hname)
      obtain ⟨hok, hmean⟩ := ih hnamed' h
      exact ⟨fun heq => Line.noConfusion heq, hok, congrArg (_ :: ·) hmean⟩
    · obtain ⟨htrue, hrest⟩ := h
      rw [readLine_more m (hnamed htrue)]
      obtain ⟨hok, hmean⟩ := ih hnamed hrest
      exact ⟨fun heq => Line.noConfusion heq, hok, congrArg (_ :: ·) hmean⟩
    · rw [readLine_filler]
      obtain ⟨hok, hmean⟩ := ih hnamed h
      exact ⟨fun heq => Line.noConfusion heq, hok, hmean⟩

/-- Only the beginning of the text decides whether it is marked. -/
theorem linesOf_of_unmarked {content : List UInt8} (h : BOM.isPrefixOf content = false) :
    linesOf content = received content := by
  rw [linesOf_eq]
  by_cases hcontent : content = []
  · subst hcontent
    rfl
  · rw [received_of_ne_nil hcontent]
    show dropBom _ :: _ = _
    -- a mark would stand at the beginning of the text, too
    have hpre : (CString.ofBytes (Lines.next 10 (INI_MAX_LINE - 1) content).1).bytes <+: content :=
      (ofBytes_initial _).trans ⟨_, Lines.next_append 10 (INI_MAX_LINE - 1) content⟩
    unfold dropBom
    rw [if_neg]
    intro hbom
    have htrans := (List.isPrefixOf_iff_prefix.mp hbom).trans hpre
    rw [← List.isPrefixOf_iff_prefix, h] at htrans
    exact absurd htrans (by decide)

theorem readText_render (doc : Document) :
    (∀ l ∈ readText doc.render, l ≠ .malformed) ∧ assignments doc.render = doc.meaning := by
  have hlines : linesOf doc.render = received doc.render := linesOf_of_unmarked doc.unmarked
  unfold assignments readText
  rw [hlines]
  exact readLines_items (fun hf => absurd hf (by decide)) doc.orderly

/-- A handler that refuses nothing finds no error in lines that have none. -/
theorem observe_accepting {σ : Type} {handler : Handler σ}
    (haccept : ∀ u s n v, (handler u s n v).1 ≠ 0) {ls : List Line}
    (hls : ∀ l ∈ ls, l ≠ .malformed) (user : σ) : true ∉ (observe handler user ls).1 := by
  induction ls generalizing user with
  | nil => exact List.not_mem_nil
  | cons l ls ih =>
    have hrest := ih (fun l' hl' => hls l' (List.mem_cons_of_mem l hl'))
    show true ∉ (judge handler user l).1 :: (observe handler (judge handler user l).2 ls).1
    rw [List.mem_cons, not_or]
    refine ⟨?_, hrest _⟩
    rcases l with _ | a | _
    · exact fun heq => Bool.noConfusion heq
    · show ¬ true = decide ((handler user a.section_ a.name a.value).1 = 0)
      rw [decide_eq_false (haccept user _ _ _)]
      decide
    · exact absurd rfl (hls _ List.mem_cons_self)

/-- **Round trip.** Every document is read back from its text, however it is laid
    out in lines that fit in the buffer: no error is reported to a handler that
    refuses nothing, and it is called for what the document means. -/
theorem parse_render {σ : Type} (doc : Document) (hsize : doc.render.length ≤ INT_MAX)
    (handler : Handler σ) (haccept : ∀ u s n v, (handler u s n v).1 ≠ 0)
    (line : Block INI_MAX_LINE) (user : σ) :
    ini_parse_file (recording handler) line doc.render (user, []) =
      .ok (0, doc.meaning.foldl (fun u a => (handler u a.section_ a.name a.value).2) user,
        doc.meaning) := by
  obtain ⟨hok, hmeaning⟩ := readText_render doc
  have hcount : (received doc.render).length ≤ INT_MAX :=
    (length_received_le doc.render).trans hsize
  have haccept' : ∀ u s n v, (recording handler u s n v).1 ≠ 0 :=
    fun u s n v => haccept u.1 s n v
  have hzero : firstError (observe (recording handler) (user, []) (readText doc.render)).1 = 0 :=
    firstError_eq_zero.mpr (observe_accepting haccept' hok _)
  rw [ini_parse_file_eq, if_pos hcount, hzero, hmeaning, foldl_recording, List.nil_append]
  rfl

/-- The configuration that turns the greeting off, with comments. -/
def quietDocument : Document where
  items :=
    [.filler ⟨[], lit "# the plugin's own section", by decide, Or.inr ⟨by decide, by decide⟩,
        by decide⟩,
      .heading ⟨lit "plugin", [], ⟨by decide, by decide⟩, by decide, by decide⟩,
      .entry ⟨lit "show_welcome", [32], 61, [32], lit "false", [32], lit "; no greeting",
        ⟨by decide, by decide, by decide, by decide⟩, by decide, by decide, by decide,
        ⟨by decide, by decide, by decide⟩, ⟨by decide, by decide, by decide⟩, by decide,
        by decide, by decide⟩]
  orderly := trivial
  unmarked := by decide

theorem parse_render_quietDocument :
    ini_parse_file (recording fun _ _ _ _ => (1, ())) (.zero _) quietDocument.render ((), []) =
      .ok (0, (), [⟨CString.ofString "plugin", CString.ofString "show_welcome",
        CString.ofString "false"⟩]) :=
  parse_render quietDocument (by decide) (fun _ _ _ _ => (1, ())) (fun _ _ _ _ => by decide)
    (.zero _) ()

/-! ## Section 6: Nothing else is read -/

/-- The line of a value that goes on. -/
def More.ofText {v : List UInt8} (h : IsContinuation v) (fits : v.length + 1 < INI_MAX_LINE) :
    More where
  indent := [32]
  text := v
  gap := []
  isGap := by decide
  indented := by decide
  isText := h
  gap_ok := by decide
  fits := by
    rw [List.append_nil, List.singleton_append, List.length_cons]
    exact fits

/-- The line of a section. -/
def Heading.ofTitle {t : List UInt8} (h : IsTitle t) (fits : t.length + 2 < INI_MAX_LINE) :
    Heading where
  title := t
  rest := []
  isTitle := h
  rest_ok := by decide
  fits := fits

/-- The line of a name and its value. -/
def Entry.ofPair {n v : List UInt8} (hname : IsName n) (hvalue : IsValue v)
    (fits : n.length + 1 + v.length < INI_MAX_LINE) : Entry where
  name := n
  gap₁ := []
  delim := 61
  gap₂ := []
  value := v
  gap₃ := []
  remark := []
  isName := hname
  isGap₁ := isGap_nil
  delim_ok := Or.inl rfl
  isGap₂ := isGap_nil
  isValue := hvalue
  trailer := ⟨isGap_nil, by decide, Or.inl rfl⟩
  start_ok := fun _ => rfl
  plain := hvalue.plain
  fits := by
    simp only [List.append_nil, List.nil_append, List.length_append, List.length_cons]
    omega

/-- Whatever the lines are, there are items that mean what they say. By induction
    on the lines; what a line can say is an item or is left out. -/
theorem exists_items {texts : List (List UInt8)} (htexts : ∀ text ∈ texts, IsLine text)
    (ctx : Context) :
    ∃ items, Orderly (decide (ctx.prev_name ≠ [])) items ∧
      meaningFrom ctx items = (readLines ctx texts).filterMap Line.assignment? := by
  induction texts generalizing ctx with
  | nil => exact ⟨[], trivial, rfl⟩
  | cons text texts ih =>
    have hline := htexts text List.mem_cons_self
    have hreads := readLine_reads ctx hline.one_line
    have hfits := hline.fits
    obtain ⟨items, horderly, hmeaning⟩ :=
      ih (fun t ht => htexts t (List.mem_cons_of_mem text ht)) (readLine ctx text).1
    show ∃ items, _ ∧ meaningFrom ctx items =
      ((readLine ctx text).2 :: readLines (readLine ctx text).1 texts).filterMap Line.assignment?
    generalize readLine ctx text = r at hreads horderly hmeaning ⊢
    rcases hreads with _ | _ | ⟨hv, named, fits⟩ | ⟨ht, fits⟩ | @⟨n, v, hn, hv, fits⟩
    · exact ⟨items, horderly, hmeaning⟩
    · exact ⟨items, horderly, hmeaning⟩
    · refine ⟨.more (More.ofText hv (by omega)) :: items, ⟨by simpa using named, horderly⟩, ?_⟩
      exact congrArg (_ :: ·) hmeaning
    · exact ⟨.heading (Heading.ofTitle ht (by omega)) :: items, horderly, hmeaning⟩
    · refine ⟨.entry (Entry.ofPair hn hv (by omega)) :: items, ?_, congrArg (_ :: ·) hmeaning⟩
      show Orderly (decide (n ≠ [])) items
      rw [← decide_eq_decide.mpr remembered_ne_nil]
      exact horderly

/-- A blank line. -/
def Filler.blank : Filler where
  indent := []
  remark := []
  isGap := isGap_nil
  remark_ok := Or.inl rfl
  fits := by decide

/-- **Normal form.** Whatever a text is, there is a document that means what is
    read from it, and the document's own text is free of errors and read alike. -/
theorem exists_document (content : List UInt8) :
    ∃ doc : Document, doc.meaning = assignments content ∧
      assignments doc.render = assignments content ∧
      ∀ l ∈ readText doc.render, l ≠ .malformed := by
  obtain ⟨items, horderly, hmeaning⟩ :=
    exists_items (fun _ (ht : _ ∈ linesOf content) => isLine_of_mem_linesOf ht) .start
  -- a blank line in front keeps the first name from being taken for a mark
  obtain ⟨doc, hdoc⟩ : ∃ doc : Document, doc.items = .filler Filler.blank :: items :=
    ⟨⟨.filler Filler.blank :: items, horderly, rfl⟩, rfl⟩
  have hmean : doc.meaning = assignments content := by
    unfold Document.meaning
    rw [hdoc]
    exact hmeaning
  obtain ⟨hok, hread⟩ := readText_render doc
  exact ⟨doc, hmean, hread.trans hmean, hok⟩

end Inih
