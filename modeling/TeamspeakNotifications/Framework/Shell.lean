import Mathlib.Data.List.Basic
import Mathlib.Tactic.SplitIfs

/-! # How a POSIX shell reads a command line

    The shell splits its input into tokens before it runs anything. This module
    models that reading, one byte at a time, for inputs on which the shell
    performs no expansion: an input on which it would expand something (a
    parameter, a command substitution, a file name pattern, a leading `~`), or
    that starts with `$` a form of its own, is rejected, with the reason.

    * `step`, `lex`: the tokenizer, a state machine over bytes. It knows
      blanks, newlines, comments, the control and redirection operators,
      backslash escapes, single quotes and double quotes.
    * `readCommand`: the argument vector, if the input is exactly one simple
      command.
    * `Literal`: the texts that stand for themselves between double quotes.
    * `lex_literal`: a literal text between double quotes becomes part of the
      word, byte by byte.
    * `literal_of_lossless`: conversely, a double-quoted text that loses none
      of its bytes is literal. The proof weighs what the tokenizer reads
      against what it returns: no step returns more than it read, and a double
      quote is only ever returned at the price of another byte.

    POSIX leaves open what a `$` means before a byte that makes no expansion of
    it. Many shells take it as it is, some give it a meaning of their own before
    certain bytes, as `bash` does for `$[`. That is a parameter, the `Dialect`.
    What single shells add beyond that, such as brace expansion, concerns text
    outside quotes only, and is left out.
-/

namespace Shell

/-- The bytes of one word. -/
abbrev Word := List UInt8

/-! ## Section 1: Bytes -/

abbrev quote : UInt8 := 34
abbrev apostrophe : UInt8 := 39
abbrev backslash : UInt8 := 92
abbrev dollar : UInt8 := 36
abbrev backquote : UInt8 := 96
abbrev newline : UInt8 := 10

/-- What a byte is outside quotes. -/
inductive Class where
  | blank | newline | operator | quote | apostrophe | backslash | dollar | backquote
  | pattern | hash | tilde | ordinary
  deriving DecidableEq

/-- Space and tab separate words, `& | ; < > ( )` start operators, `* ? [` make
    the word a file name pattern. -/
def classify : UInt8 → Class
  | 32 | 9 => .blank
  | 10 => .newline
  | 38 | 124 | 59 | 60 | 62 | 40 | 41 => .operator
  | 34 => .quote
  | 39 => .apostrophe
  | 92 => .backslash
  | 36 => .dollar
  | 96 => .backquote
  | 42 | 63 | 91 => .pattern
  | 35 => .hash
  | 126 => .tilde
  | _ => .ordinary

theorem classify_eq_quote_iff {c : UInt8} : classify c = .quote ↔ c = quote := by
  constructor
  · unfold classify
    intro h
    split at h <;> first | rfl | cases h
  · intro heq
    rw [heq]
    rfl

/-- What a backslash escapes between double quotes: `$`, backquote, `"`, `\`
    and newline. Before any other byte the backslash stands for itself. -/
def escapable (c : UInt8) : Bool :=
  c ∈ ([dollar, backquote, quote, backslash, newline] : List UInt8)

/-- What turns a `$` into an expansion in every shell when it comes next: a
    letter, a digit, an underscore, `{`, `(` or one of the special parameters
    `@ * # ? - $ !`. -/
def startsExpansion (c : UInt8) : Bool :=
  (65 ≤ c && c ≤ 90) || (97 ≤ c && c ≤ 122) || (48 ≤ c && c ≤ 57) ||
    c ∈ ([95, 123, 40, 64, 42, 35, 63, 45, 36, 33] : List UInt8)

/-- The other bytes before which a shell gives `$` a meaning, between double
    quotes and outside quotes. -/
structure Dialect where
  quoted : UInt8 → Bool
  unquoted : UInt8 → Bool

namespace Dialect

/-- Before the byte `c` a `$` between double quotes does not stand for itself. -/
def expands (sh : Dialect) (c : UInt8) : Bool := startsExpansion c || sh.quoted c

/-- The same outside quotes. -/
def expandsUnquoted (sh : Dialect) (c : UInt8) : Bool := startsExpansion c || sh.unquoted c

/-- A shell that adds nothing to POSIX, as `dash`. -/
def posix : Dialect := ⟨fun _ => false, fun _ => false⟩

/-- `bash`, also when called as `sh`: `$[` is arithmetic, `$'` and `$"` quote. -/
def bash : Dialect := ⟨(· = 91), (· ∈ ([91, apostrophe, quote] : List UInt8))⟩

end Dialect

/-! ## Section 2: The tokenizer -/

inductive Token where
  | word (w : Word)
  | newline
  | operator (c : UInt8)
  deriving DecidableEq

/-- Why an input is not read: the shell would expand something in it, or a
    quote is never closed. -/
inductive Fault where
  | expansion
  | unterminated
  deriving DecidableEq

/-- Where the tokenizer stands; `w` is what it has of the current word. After
    an unquoted backslash there need not be a word yet. -/
inductive State where
  | between
  | word (w : Word)
  | escape (w : Option Word)
  | dollar (w : Word)
  | dquoted (w : Word)
  | dquotedEscape (w : Word)
  | dquotedDollar (w : Word)
  | squoted (w : Word)
  | comment
  deriving DecidableEq

/-- One byte outside quotes; `w` is the current word, `none` between words. -/
def stepUnquoted (w : Option Word) (c : UInt8) : Except Fault (List Token × State) :=
  let text := w.getD []
  let done := (w.map Token.word).toList
  match classify c with
  | .blank => .ok (done, .between)
  | .newline => .ok (done ++ [.newline], .between)
  | .operator => .ok (done ++ [.operator c], .between)
  | .quote => .ok ([], .dquoted text)
  | .apostrophe => .ok ([], .squoted text)
  | .backslash => .ok ([], .escape w)
  | .dollar => .ok ([], .dollar text)
  | .backquote => .error .expansion
  | .pattern => .error .expansion
  -- `#` and `~` are special at the start of a word only
  | .hash => if w = none then .ok ([], .comment) else .ok ([], .word (text ++ [c]))
  | .tilde => if w = none then .error .expansion else .ok ([], .word (text ++ [c]))
  | .ordinary => .ok ([], .word (text ++ [c]))

/-- One byte between double quotes. -/
def stepDquoted (w : Word) (c : UInt8) : Except Fault (List Token × State) :=
  if c = quote then .ok ([], .word w)
  else if c = backquote then .error .expansion
  else if c = dollar then .ok ([], .dquotedDollar w)
  else if c = backslash then .ok ([], .dquotedEscape w)
  else .ok ([], .dquoted (w ++ [c]))

/-- One byte: the tokens it completes and the next state. -/
def step (sh : Dialect) : State → UInt8 → Except Fault (List Token × State)
  | .between, c => stepUnquoted none c
  | .word w, c => stepUnquoted (some w) c
  | .escape w, c =>
    -- before a newline this is a line continuation: both bytes vanish
    if c = newline then .ok ([], w.elim .between .word)
    else .ok ([], .word (w.getD [] ++ [c]))
  | .dollar w, c =>
    if sh.expandsUnquoted c then .error .expansion
    else stepUnquoted (some (w ++ [dollar])) c
  | .dquoted w, c => stepDquoted w c
  | .dquotedEscape w, c =>
    if c = newline then .ok ([], .dquoted w)
    else if escapable c then .ok ([], .dquoted (w ++ [c]))
    else stepDquoted (w ++ [backslash]) c
  | .dquotedDollar w, c =>
    if sh.expands c then .error .expansion
    else stepDquoted (w ++ [dollar]) c
  | .squoted w, c =>
    if c = apostrophe then .ok ([], .word w) else .ok ([], .squoted (w ++ [c]))
  | .comment, c =>
    if c = newline then .ok ([.newline], .between) else .ok ([], .comment)

/-- The end of the input. -/
def finish : State → Except Fault (List Token)
  | .between => .ok []
  | .word w => .ok [.word w]
  | .escape w => .ok [.word (w.getD [] ++ [backslash])]
  | .dollar w => .ok [.word (w ++ [dollar])]
  | .dquoted _ => .error .unterminated
  | .dquotedEscape _ => .error .unterminated
  | .dquotedDollar _ => .error .unterminated
  | .squoted _ => .error .unterminated
  | .comment => .ok []

/-- All tokens of the input. -/
def lex (sh : Dialect) : State → List UInt8 → Except Fault (List Token)
  | st, [] => finish st
  | st, c :: cs =>
    match step sh st c with
    | .error f => .error f
    | .ok (ts, st') => (lex sh st' cs).map (ts ++ ·)

variable {sh : Dialect}

theorem lex_cons_ok {st st' : State} {c : UInt8} {ts : List Token} (cs : List UInt8)
    (h : step sh st c = .ok (ts, st')) :
    lex sh st (c :: cs) = (lex sh st' cs).map (ts ++ ·) := by
  simp only [lex, h]

theorem lex_cons_error {st : State} {c : UInt8} {f : Fault} (cs : List UInt8)
    (h : step sh st c = .error f) : lex sh st (c :: cs) = .error f := by
  simp only [lex, h]

/-- A byte that completes no token only changes the state. -/
theorem lex_cons_silent {st st' : State} {c : UInt8} (cs : List UInt8)
    (h : step sh st c = .ok ([], st')) : lex sh st (c :: cs) = lex sh st' cs := by
  rw [lex_cons_ok cs h]
  cases lex sh st' cs <;> rfl

theorem lex_cons_congr {st st' : State} {c : UInt8} (cs : List UInt8)
    (h : step sh st c = step sh st' c) : lex sh st (c :: cs) = lex sh st' (c :: cs) := by
  simp only [lex, h]

/-- The tokens completed by the first bytes of the input, and the state after
    them. -/
def steps (sh : Dialect) : State → List UInt8 → Except Fault (List Token × State)
  | st, [] => .ok ([], st)
  | st, c :: cs =>
    match step sh st c with
    | .error f => .error f
    | .ok (ts, st') => (steps sh st' cs).map (fun r => (ts ++ r.1, r.2))

theorem lex_append {xs ys : List UInt8} {st st' : State} {ts : List Token}
    (h : steps sh st xs = .ok (ts, st')) :
    lex sh st (xs ++ ys) = (lex sh st' ys).map (ts ++ ·) := by
  induction xs generalizing st ts with
  | nil =>
    cases h
    show lex sh st' ys = (lex sh st' ys).map ([] ++ ·)
    cases lex sh st' ys <;> rfl
  | cons c cs ih =>
    cases hstep : step sh st c with
    | error f => simp only [steps, hstep] at h; cases h
    | ok r =>
      obtain ⟨us, st₁⟩ := r
      simp only [steps, hstep] at h
      cases hsteps : steps sh st₁ cs with
      | error f => rw [hsteps] at h; cases h
      | ok r =>
        obtain ⟨vs, st₂⟩ := r
        rw [hsteps] at h
        cases h
        rw [List.cons_append, lex_cons_ok _ hstep, ih hsteps]
        cases lex sh st₂ ys <;> simp [Except.map]

/-! ## Section 3: Simple commands -/

def Token.word? : Token → Option Word
  | .word w => some w
  | _ => none

/-- The words among the tokens. -/
def words (ts : List Token) : List Word := ts.filterMap Token.word?

/-- The words the grammar reserves in the place of a command name. -/
def reserved : List Word :=
  ["!", "\x7b", "\x7d", "case", "do", "done", "elif", "else", "esac", "fi", "for", "if",
    "in", "then", "until", "while"].map
    (fun s : String => s.toList.map (fun c => UInt8.ofNat c.toNat))

/-- The first word names a command: it is no reserved word and no assignment
    (`=` is byte 61). -/
def namesCommand (w : Word) : Bool := w ∉ reserved && 61 ∉ w

/-- The tokens without the newlines around them: those are part of the program,
    not of the command. -/
def trimNewlines (ts : List Token) : List Token :=
  ((ts.dropWhile (· = .newline)).reverse.dropWhile (· = .newline)).reverse

/-- The argument vector, if the tokens are those of exactly one simple command. -/
def simpleCommand (ts : List Token) : Option (List Word) :=
  if (trimNewlines ts).all (fun t => t.word?.isSome) ∧
      (words ts).head?.any namesCommand then some (words ts)
  else none

/-- The argument vector of the command line `s`, if the shell reads it as
    exactly one simple command and expands nothing in it. -/
def readCommand (sh : Dialect) (s : List UInt8) : Option (List Word) :=
  match lex sh .between s with
  | .ok ts => simpleCommand ts
  | .error _ => none

@[simp] theorem words_append (ts us : List Token) :
    words (ts ++ us) = words ts ++ words us := List.filterMap_append

@[simp] theorem words_map_word (ws : List Word) : words (ws.map Token.word) = ws := by
  induction ws with
  | nil => rfl
  | cons w ws ih => simpa [words, Token.word?] using ih

/-- A simple command's arguments are the words of the input. -/
theorem words_of_simpleCommand {ts : List Token} {argv : List Word}
    (h : simpleCommand ts = some argv) : words ts = argv := by
  unfold simpleCommand at h
  split at h
  · exact Option.some.inj h
  · cases h

/-- Words alone, the first of which names a command, are a simple command. -/
theorem simpleCommand_words {w : Word} {ws : List Word} (hw : namesCommand w = true) :
    simpleCommand ((w :: ws).map Token.word) = some (w :: ws) := by
  have hkeep : ∀ l : List Word,
      (l.map Token.word).dropWhile (· = .newline) = l.map Token.word := by
    intro l
    cases l with
    | nil => rfl
    | cons x xs => simp
  have htrim : trimNewlines ((w :: ws).map Token.word) = (w :: ws).map Token.word := by
    unfold trimNewlines
    rw [hkeep, ← List.map_reverse, hkeep, List.map_reverse, List.reverse_reverse]
  have hall : ((w :: ws).map Token.word).all (fun t => t.word?.isSome) = true := by
    simp [Token.word?]
  unfold simpleCommand
  rw [htrim, words_map_word, if_pos ⟨hall, by simpa using hw⟩]

/-! ## Section 4: Text between double quotes -/

/-- `s` stands for itself between double quotes: it has no double quote and no
    backquote, and neither a backslash nor a `$` in it means anything before
    the byte that comes next. After the last byte that is the closing quote. -/
def Literal (sh : Dialect) : List UInt8 → Prop
  | [] => True
  | c :: s =>
    c ≠ quote ∧ c ≠ backquote ∧
    (c = backslash → escapable (s.headD quote) = false) ∧
    (c = dollar → sh.expands (s.headD quote) = false) ∧ Literal sh s

instance decidableLiteral (sh : Dialect) : (s : List UInt8) → Decidable (Literal sh s)
  | [] => isTrue trivial
  | c :: s =>
    haveI := decidableLiteral sh s
    inferInstanceAs (Decidable (c ≠ quote ∧ c ≠ backquote ∧
      (c = backslash → escapable (s.headD quote) = false) ∧
      (c = dollar → sh.expands (s.headD quote) = false) ∧ Literal sh s))

/-- `$[` stands for itself in `dash`, but not in `bash`. -/
example : Literal .posix [dollar, 91] ∧ ¬ Literal .bash [dollar, 91] := by decide

/-- What is literal in some shell is literal in one that adds nothing to POSIX. -/
theorem Literal.posix {s : List UInt8} (hs : Literal sh s) : Literal .posix s := by
  induction s with
  | nil => trivial
  | cons c s ih =>
    obtain ⟨hq, hb, hesc, hexp, hs⟩ := hs
    refine ⟨hq, hb, hesc, ?_, ih hs⟩
    intro hc
    have hstarts := (Bool.or_eq_false_iff.mp (hexp hc)).1
    exact Bool.or_eq_false_iff.mpr ⟨hstarts, rfl⟩

/-- A backslash that escapes nothing is an ordinary byte. -/
theorem lex_backslash (w : Word) (d : UInt8) (cs : List UInt8)
    (hd : escapable d = false) :
    lex sh (.dquoted w) (backslash :: d :: cs) =
      lex sh (.dquoted (w ++ [backslash])) (d :: cs) := by
  have hnl : d ≠ newline := by
    intro heq
    rw [heq] at hd
    exact absurd hd (by decide)
  rw [lex_cons_silent (d :: cs) (show step sh (.dquoted w) backslash = _ from rfl)]
  exact lex_cons_congr cs (by simp [step, hnl, hd])

/-- A `$` that starts no expansion is an ordinary byte. -/
theorem lex_dollar (w : Word) (d : UInt8) (cs : List UInt8)
    (hd : sh.expands d = false) :
    lex sh (.dquoted w) (dollar :: d :: cs) =
      lex sh (.dquoted (w ++ [dollar])) (d :: cs) := by
  rw [lex_cons_silent (d :: cs) (show step sh (.dquoted w) dollar = _ from rfl)]
  exact lex_cons_congr cs (by simp [step, hd])

theorem lex_ordinary (w : Word) (c : UInt8) (cs : List UInt8) (hq : c ≠ quote)
    (hb : c ≠ backquote) (hd : c ≠ dollar) (hs : c ≠ backslash) :
    lex sh (.dquoted w) (c :: cs) = lex sh (.dquoted (w ++ [c])) cs :=
  lex_cons_silent cs (by simp [step, stepDquoted, hq, hb, hd, hs])

theorem append_quote_eq_cons (s rest : List UInt8) :
    s ++ quote :: rest = s.headD quote :: (s ++ quote :: rest).tail := by
  cases s <;> rfl

/-- One byte of a literal text is added to the word. -/
theorem lex_literal_cons (w : Word) (c : UInt8) (s rest : List UInt8)
    (hq : c ≠ quote) (hb : c ≠ backquote)
    (hs : c = backslash → escapable (s.headD quote) = false)
    (hd : c = dollar → sh.expands (s.headD quote) = false) :
    lex sh (.dquoted w) (c :: s ++ quote :: rest) =
      lex sh (.dquoted (w ++ [c])) (s ++ quote :: rest) := by
  rw [List.cons_append]
  by_cases hc : c = backslash
  · subst hc
    rw [append_quote_eq_cons]
    exact lex_backslash w _ _ (hs rfl)
  · by_cases hc' : c = dollar
    · subst hc'
      rw [append_quote_eq_cons]
      exact lex_dollar w _ _ (hd rfl)
    · exact lex_ordinary w c _ hq hb hc' hc

/-- A literal text between double quotes becomes part of the word. -/
theorem lex_literal (w : Word) (s rest : List UInt8) (hs : Literal sh s) :
    lex sh (.dquoted w) (s ++ quote :: rest) = lex sh (.word (w ++ s)) rest := by
  induction s generalizing w with
  | nil => simpa using lex_cons_silent rest (show step sh (.dquoted w) quote = _ from rfl)
  | cons c s ih =>
    obtain ⟨hq, hb, hesc, hexp, hs⟩ := hs
    rw [lex_literal_cons w c s rest hq hb hesc hexp, ih (w ++ [c]) hs]
    simp

/-! ## Section 5: What reading costs

    `bulk` counts the bytes other than double quotes. A word is charged one
    more than its bulk: the byte that separates it from the next word. -/

/-- Bytes other than double quotes. -/
def bulk (s : List UInt8) : Nat := s.countP (· ≠ quote)

/-- Double quotes. -/
def quotes (s : List UInt8) : Nat := s.count quote

/-- What words cost. -/
def cost : List Word → Nat
  | [] => 0
  | w :: ws => bulk w + 1 + cost ws

/-- Double quotes in words. -/
def quotesIn : List Word → Nat
  | [] => 0
  | w :: ws => quotes w + quotesIn ws

@[simp] theorem bulk_nil : bulk [] = 0 := rfl
@[simp] theorem quotes_nil : quotes [] = 0 := rfl
@[simp] theorem cost_nil : cost [] = 0 := rfl
@[simp] theorem quotesIn_nil : quotesIn [] = 0 := rfl

@[simp] theorem bulk_append (s t : List UInt8) : bulk (s ++ t) = bulk s + bulk t := by
  simp [bulk]

@[simp] theorem quotes_append (s t : List UInt8) : quotes (s ++ t) = quotes s + quotes t := by
  simp [quotes]

@[simp] theorem cost_cons (w : Word) (ws : List Word) :
    cost (w :: ws) = bulk w + 1 + cost ws := rfl

@[simp] theorem quotesIn_cons (w : Word) (ws : List Word) :
    quotesIn (w :: ws) = quotes w + quotesIn ws := rfl

@[simp] theorem cost_append (ws xs : List Word) : cost (ws ++ xs) = cost ws + cost xs := by
  induction ws with
  | nil => simp
  | cons w ws ih =>
    rw [List.cons_append, cost_cons, cost_cons, ih]
    omega

@[simp] theorem quotesIn_append (ws xs : List Word) :
    quotesIn (ws ++ xs) = quotesIn ws + quotesIn xs := by
  induction ws with
  | nil => simp
  | cons w ws ih =>
    rw [List.cons_append, quotesIn_cons, quotesIn_cons, ih]
    omega

theorem bulk_cons (c : UInt8) (s : List UInt8) : bulk (c :: s) = bulk [c] + bulk s :=
  bulk_append [c] s

theorem quotes_cons (c : UInt8) (s : List UInt8) :
    quotes (c :: s) = quotes [c] + quotes s :=
  quotes_append [c] s

@[simp] theorem words_nil : words [] = [] := rfl
@[simp] theorem words_newline : words [.newline] = [] := rfl

@[simp] theorem bulk_quote : bulk [quote] = 0 := by decide
@[simp] theorem quotes_quote : quotes [quote] = 1 := by decide

theorem bulk_singleton {c : UInt8} (hc : c ≠ quote) : bulk [c] = 1 := by
  simp [bulk, hc]

theorem quotes_singleton {c : UInt8} (hc : c ≠ quote) : quotes [c] = 0 := by
  simp [quotes, List.count_eq_zero, Ne.symm hc]

/-- What a state has read and not yet returned. A pending backslash or `$`
    still counts: it may turn out to be an ordinary byte. -/
def State.weight : State → Nat
  | .between => 0
  | .word w => bulk w
  | .escape w => bulk (w.getD []) + 1
  | .dollar w => bulk w + 1
  | .dquoted w => bulk w
  | .dquotedEscape w => bulk w + 1
  | .dquotedDollar w => bulk w + 1
  | .squoted w => bulk w
  | .comment => 0

/-- Double quotes a state holds as part of its word. -/
def State.held : State → Nat
  | .between => 0
  | .word w => quotes w
  | .escape w => quotes (w.getD [])
  | .dollar w => quotes w
  | .dquoted w => quotes w
  | .dquotedEscape w => quotes w
  | .dquotedDollar w => quotes w
  | .squoted w => quotes w
  | .comment => 0

/-- Between single quotes the price of a double quote has been paid already:
    the opening single quote is never returned. -/
def State.paid : State → Prop
  | .squoted _ => True
  | _ => False

/-- What one byte may do: nothing is returned for free, and a double quote is
    held or returned only if some other byte is lost. -/
def Lossy (st : State) (c : UInt8) (r : List Token × State) : Prop :=
  cost (words r.1) + r.2.weight ≤ st.weight + bulk [c] ∧
  (¬ st.paid → (r.2.paid ∨ st.held < quotesIn (words r.1) + r.2.held) →
    cost (words r.1) + r.2.weight < st.weight + bulk [c])

theorem Lossy.of_keep {st st' : State} {c : UInt8} {ts : List Token}
    (hcost : cost (words ts) + st'.weight ≤ st.weight + bulk [c]) (hpaid : ¬ st'.paid)
    (hheld : quotesIn (words ts) + st'.held ≤ st.held) : Lossy st c (ts, st') :=
  ⟨hcost, fun _ h => h.elim (fun hp => absurd hp hpaid) (fun hlt => by
    simp only at hlt; omega)⟩

theorem Lossy.of_loss {st st' : State} {c : UInt8} {ts : List Token}
    (hcost : cost (words ts) + st'.weight < st.weight + bulk [c]) : Lossy st c (ts, st') :=
  ⟨Nat.le_of_lt hcost, fun _ _ => hcost⟩

/-- A step that returns nothing and holds no new double quote. -/
theorem Lossy.of_silent {st st' : State} {c : UInt8}
    (hweight : st'.weight ≤ st.weight + bulk [c]) (hheld : st'.held ≤ st.held)
    (hpaid : ¬ st'.paid) : Lossy st c ([], st') := by
  have hcost : cost (words []) + st'.weight ≤ st.weight + bulk [c] := by
    rw [words_nil, cost_nil, Nat.zero_add]
    exact hweight
  have hquotes : quotesIn (words []) + st'.held ≤ st.held := by
    rw [words_nil, quotesIn_nil, Nat.zero_add]
    exact hheld
  exact .of_keep hcost hpaid hquotes

/-- The unquoted state with the word `w`, between words if there is none. -/
abbrev unquoted (w : Option Word) : State := w.elim .between .word

@[simp] theorem weight_unquoted (w : Option Word) : (unquoted w).weight = bulk (w.getD []) := by
  cases w <;> rfl

@[simp] theorem held_unquoted (w : Option Word) : (unquoted w).held = quotes (w.getD []) := by
  cases w <;> rfl

theorem cost_done (w : Option Word) :
    cost (words (w.map Token.word).toList) ≤ bulk (w.getD []) + 1 := by
  cases w <;> simp [words, Token.word?]

theorem quotesIn_done (w : Option Word) :
    quotesIn (words (w.map Token.word).toList) = quotes (w.getD []) := by
  cases w <;> simp [words, Token.word?]

/-- A separator returns the word before it and is itself lost. -/
theorem lossy_separator (w : Option Word) {c : UInt8} (hc : c ≠ quote) (sep : List Token)
    (hsep : words sep = []) :
    Lossy (unquoted w) c ((w.map Token.word).toList ++ sep, .between) := by
  have hcost := cost_done w
  apply Lossy.of_keep
  · rw [words_append, hsep, List.append_nil, weight_unquoted, bulk_singleton hc]
    exact hcost
  · exact id
  · rw [words_append, hsep, List.append_nil, quotesIn_done, held_unquoted]
    exact Nat.le_refl _

/-- A byte outside quotes that returns nothing. -/
theorem lossy_pending (w : Option Word) {c : UInt8} {st' : State}
    (hweight : st'.weight ≤ bulk (w.getD []) + bulk [c])
    (hheld : st'.held ≤ quotes (w.getD [])) (hpaid : ¬ st'.paid) :
    Lossy (unquoted w) c ([], st') := by
  apply Lossy.of_silent
  · rw [weight_unquoted]
    exact hweight
  · rw [held_unquoted]
    exact hheld
  · exact hpaid

/-- A byte that is added to the word. -/
theorem lossy_push (w : Option Word) {c : UInt8} (hc : c ≠ quote) :
    Lossy (unquoted w) c ([], .word (w.getD [] ++ [c])) := by
  apply lossy_pending
  · simp [State.weight]
  · simp [State.held, quotes_singleton hc]
  · exact id

theorem lossy_unquoted (w : Option Word) (c : UInt8) (r : List Token × State)
    (h : stepUnquoted w c = .ok r) : Lossy (unquoted w) c r := by
  have hne : classify c ≠ .quote → c ≠ quote := fun hc h => hc (classify_eq_quote_iff.mpr h)
  cases hc : classify c with
  | blank =>
    have hq : c ≠ quote := hne (by simp [hc])
    simp only [stepUnquoted, hc] at h
    cases h
    simpa using lossy_separator w hq [] rfl
  | newline | operator =>
    have hq : c ≠ quote := hne (by simp [hc])
    simp only [stepUnquoted, hc] at h
    cases h
    exact lossy_separator w hq _ rfl
  | quote =>
    simp only [stepUnquoted, hc] at h
    cases h
    apply lossy_pending
    · simp [State.weight]
    · exact Nat.le_refl _
    · exact id
  | apostrophe =>
    -- the opening single quote is the byte that pays
    have hq : c ≠ quote := hne (by simp [hc])
    simp only [stepUnquoted, hc] at h
    cases h
    apply Lossy.of_loss
    rw [weight_unquoted, bulk_singleton hq]
    simp [State.weight]
  | backslash | dollar =>
    -- still pending, and counted by the weight as the byte it is
    have hq : c ≠ quote := hne (by simp [hc])
    simp only [stepUnquoted, hc] at h
    cases h
    apply lossy_pending
    · simp [State.weight, bulk_singleton hq]
    · exact Nat.le_refl _
    · exact id
  | backquote | pattern => simp [stepUnquoted, hc] at h
  | hash =>
    have hq : c ≠ quote := hne (by simp [hc])
    simp only [stepUnquoted, hc] at h
    split at h <;> cases h
    · -- a comment: the byte is lost, and there is no word
      apply lossy_pending
      · exact Nat.zero_le _
      · exact Nat.zero_le _
      · exact id
    · exact lossy_push w hq
  | tilde =>
    have hq : c ≠ quote := hne (by simp [hc])
    simp only [stepUnquoted, hc] at h
    split at h <;> cases h
    exact lossy_push w hq
  | ordinary =>
    have hq : c ≠ quote := hne (by simp [hc])
    simp only [stepUnquoted, hc] at h
    cases h
    exact lossy_push w hq

theorem lossy_dquoted (w : Word) (c : UInt8) (r : List Token × State)
    (h : stepDquoted w c = .ok r) : Lossy (.dquoted w) c r := by
  unfold stepDquoted at h
  split_ifs at h with hquote hbackq hdollar hback <;> cases h
  · -- the closing quote weighs nothing
    exact .of_silent (by simp [State.weight]) (Nat.le_refl _) id
  · exact .of_silent (by simp [State.weight, bulk_singleton hquote]) (Nat.le_refl _) id
  · exact .of_silent (by simp [State.weight, bulk_singleton hquote]) (Nat.le_refl _) id
  · exact .of_silent (by simp [State.weight]) (by simp [State.held, quotes_singleton hquote]) id

/-- `Lossy` only sees the weight and the quotes of the state before. -/
theorem Lossy.congr {st st₂ : State} {c : UInt8} {r : List Token × State}
    (h : Lossy st c r) (hw : st.weight = st₂.weight) (hh : st.held = st₂.held)
    (hp : ¬ st.paid) : Lossy st₂ c r := by
  obtain ⟨hcost, hstrict⟩ := h
  exact ⟨hw ▸ hcost, fun _ h' => hw ▸ hstrict hp (hh ▸ h')⟩

/-- **Step lemma.** Every step of the tokenizer is lossy. -/
theorem lossy_step (st : State) (c : UInt8) (r : List Token × State)
    (h : step sh st c = .ok r) : Lossy st c r := by
  cases st with
  | between => exact lossy_unquoted none c r h
  | word w => exact lossy_unquoted (some w) c r h
  | escape w =>
    simp only [step] at h
    split_ifs at h with hnl <;> cases h
    · -- a line continuation: two bytes are lost
      apply Lossy.of_loss
      rw [weight_unquoted]
      simp only [words_nil, cost_nil, State.weight]
      omega
    · -- the backslash pays for the byte it escapes
      exact .of_loss (by simp [State.weight])
  | dollar w =>
    simp only [step] at h
    split_ifs at h with hexp
    -- the `$` is an ordinary byte of the word after all
    have hne : dollar ≠ quote := by decide
    exact (lossy_unquoted (some (w ++ [dollar])) c r h).congr
      (by simp [State.weight, bulk_singleton hne])
      (by simp [State.held, quotes_singleton hne]) id
  | dquoted w => exact lossy_dquoted w c r h
  | dquotedEscape w =>
    simp only [step] at h
    split_ifs at h with hnl hesc
    · cases h
      apply Lossy.of_loss
      simp only [words_nil, cost_nil, State.weight]
      omega
    · cases h
      exact .of_loss (by simp [State.weight])
    · -- the backslash escapes nothing and stands for itself
      have hne : backslash ≠ quote := by decide
      exact (lossy_dquoted (w ++ [backslash]) c r h).congr
        (by simp [State.weight, bulk_singleton hne])
        (by simp [State.held, quotes_singleton hne]) id
  | dquotedDollar w =>
    simp only [step] at h
    split_ifs at h with hexp
    have hne : dollar ≠ quote := by decide
    exact (lossy_dquoted (w ++ [dollar]) c r h).congr
      (by simp [State.weight, bulk_singleton hne])
      (by simp [State.held, quotes_singleton hne]) id
  | squoted w =>
    simp only [step] at h
    split_ifs at h with hap <;> cases h
    · exact ⟨by simp [State.weight], fun hp => absurd trivial hp⟩
    · exact ⟨by simp [State.weight], fun hp => absurd trivial hp⟩
  | comment =>
    simp only [step] at h
    split_ifs at h with hnl <;> cases h
    · exact .of_keep (by simp [State.weight]) id (by simp [State.held])
    · exact .of_silent (Nat.zero_le _) (Nat.le_refl _) id

theorem lossy_finish (st : State) (ts : List Token) (h : finish st = .ok ts) :
    cost (words ts) ≤ st.weight + 1 ∧ quotesIn (words ts) ≤ st.held := by
  have hback : bulk [backslash] = 1 ∧ quotes [backslash] = 0 := by decide
  have hdollar : bulk [dollar] = 1 ∧ quotes [dollar] = 0 := by decide
  cases st <;> simp only [finish] at h <;> cases h <;>
    simp [State.weight, State.held, words, Token.word?, hback, hdollar]

/-- **Run lemma.** Reading returns no more than it reads, and strictly less as
    soon as a double quote is returned that the state did not hold already. -/
theorem lossy_lex (cs : List UInt8) (st : State) (ts : List Token)
    (h : lex sh st cs = .ok ts) :
    cost (words ts) ≤ st.weight + bulk cs + 1 ∧
    (¬ st.paid → st.held < quotesIn (words ts) →
      cost (words ts) < st.weight + bulk cs + 1) := by
  induction cs generalizing st ts with
  | nil =>
    obtain ⟨hcost, hheld⟩ := lossy_finish st ts h
    exact ⟨by simpa using hcost, fun _ hlt => by omega⟩
  | cons c cs ih =>
    cases hstep : step sh st c with
    | error f => rw [lex_cons_error cs hstep] at h; cases h
    | ok r =>
      obtain ⟨us, st'⟩ := r
      obtain ⟨hcost, hstrict⟩ := lossy_step st c _ hstep
      rw [lex_cons_ok cs hstep] at h
      cases hrest : lex sh st' cs with
      | error f => rw [hrest] at h; cases h
      | ok vs =>
        rw [hrest] at h
        cases h
        obtain ⟨hcost', hstrict'⟩ := ih st' vs hrest
        simp only at hcost hstrict
        rw [bulk_cons, words_append, cost_append, quotesIn_append]
        refine ⟨by omega, ?_⟩
        intro hpaid hlt
        -- the loss happens in this step or, with nothing paid yet, later on
        by_cases hnow : st'.paid ∨ st.held < quotesIn (words us) + st'.held
        · have := hstrict hpaid hnow
          omega
        · have hpaid' : ¬ st'.paid := fun hp => hnow (Or.inl hp)
          have hheld : ¬ st.held < quotesIn (words us) + st'.held :=
            fun hlt => hnow (Or.inr hlt)
          have := hstrict' hpaid' (by omega)
          omega

/-- An escape between double quotes loses its backslash. -/
theorem lex_escaped (w : Word) (d : UInt8) (cs : List UInt8) (ts : List Token)
    (hd : escapable d = true) (h : lex sh (.dquotedEscape w) (d :: cs) = .ok ts) :
    cost (words ts) ≤ bulk w + bulk (d :: cs) + 1 := by
  rw [bulk_cons]
  by_cases hnl : d = newline
  · rw [lex_cons_silent cs (show step sh (.dquotedEscape w) d = .ok ([], .dquoted w) by
      simp [step, hnl])] at h
    have hcost := (lossy_lex _ _ _ h).1
    simp only [State.weight] at hcost
    omega
  · rw [lex_cons_silent cs
      (show step sh (.dquotedEscape w) d = .ok ([], .dquoted (w ++ [d])) by
        simp [step, hnl, hd])] at h
    have hcost := (lossy_lex _ _ _ h).1
    simp only [State.weight, bulk_append] at hcost
    omega

/-- **A double-quoted text that loses nothing is literal.** The tokenizer has
    read `w` after an opening double quote and reads `s`, a closing double
    quote and `rest`. If the words it returns weigh as much as all it read, and
    have the double quotes of `w` and `s`, then `s` is literal. -/
theorem literal_of_lossless (w : Word) (s rest : List UInt8) (ts : List Token)
    (h : lex sh (.dquoted w) (s ++ quote :: rest) = .ok ts)
    (hcost : bulk w + bulk s + bulk rest < cost (words ts))
    (hquotes : quotes w + quotes s ≤ quotesIn (words ts)) : Literal sh s := by
  induction s generalizing w with
  | nil => trivial
  | cons c s ih =>
    rw [bulk_cons] at hcost
    rw [quotes_cons] at hquotes
    have hbulk : bulk (s ++ quote :: rest) = bulk s + bulk rest := by
      rw [bulk_append, bulk_cons, bulk_quote]; omega
    have hq : c ≠ quote := by
      intro heq
      subst heq
      -- the text is closed early, yet its double quote is returned
      rw [List.cons_append, lex_cons_silent _ (show step sh (.dquoted w) quote = _ from rfl)] at h
      have hlost := (lossy_lex _ _ _ h).2 id
      simp only [State.held, State.weight, quotes_quote] at hlost hquotes
      have := hlost (by omega)
      rw [hbulk] at this
      omega
    have hb : c ≠ backquote := by
      intro heq
      subst heq
      rw [List.cons_append, lex_cons_error _ (show step sh (.dquoted w) backquote = _ from rfl)] at h
      cases h
    have hesc : c = backslash → escapable (s.headD quote) = false := by
      intro heq
      subst heq
      by_contra hesc
      rw [Bool.not_eq_false] at hesc
      -- the backslash itself is lost
      rw [List.cons_append, append_quote_eq_cons,
        lex_cons_silent _ (show step sh (.dquoted w) backslash = _ from rfl)] at h
      have hlost := lex_escaped w _ _ _ hesc h
      have hone : bulk [backslash] = 1 := by decide
      rw [← append_quote_eq_cons, hbulk] at hlost
      omega
    have hexp : c = dollar → sh.expands (s.headD quote) = false := by
      intro heq
      subst heq
      by_contra hexp
      rw [Bool.not_eq_false] at hexp
      rw [List.cons_append, append_quote_eq_cons,
        lex_cons_silent _ (show step sh (.dquoted w) dollar = _ from rfl),
        lex_cons_error _ (show step sh (.dquotedDollar w) _ = .error .expansion from
          if_pos hexp)] at h
      cases h
    have hs : Literal sh s := by
      apply ih (w ++ [c])
      · rw [lex_literal_cons w c s rest hq hb hesc hexp] at h
        exact h
      · rw [bulk_append]
        omega
      · rw [quotes_append]
        omega
    exact ⟨hq, hb, hesc, hexp, hs⟩

end Shell
