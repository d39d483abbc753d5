import Mathlib.Data.List.DropRight
import TeamspeakNotifications.Model.Config
import TeamspeakNotifications.Model.Ini

/-! # The format that `ini.c` reads

    What a configuration file says, with no buffers and no pointers: a text is
    cut into lines, every line is read in the context of the section and the
    name before it, and it says nothing, names a value or is malformed.

    * `readLine`: one line. `readLines`: one after the other.
    * `readText`: all lines of a file. `assignments`: the values named in it.
    * `observe`: what a handler is called with and which error is reported, given
      what the lines say.
-/

namespace Inih

open CLib TeamspeakNotifications

/-! ## Section 1: One line -/

/-- The section and the name that a line is read in; both are remembered up to
    the size of their buffers. -/
structure Context where
  section_ : List UInt8
  prev_name : List UInt8
  deriving DecidableEq

/-- The context a file begins with. -/
def Context.start : Context := ⟨[], []⟩

/-- What a line says. -/
inductive Line where
  | silent
  | pair (a : Assignment)
  | malformed

/-- The assignment of a line that has one. -/
def Line.assignment? : Line → Option Assignment
  | .pair a => some a
  | _ => none

def trimRight (s : List UInt8) : List UInt8 := s.rdropWhile isspace

def trimLeft (s : List UInt8) : List UInt8 := s.dropWhile isspace

/-- The text before the first of `chars` or an inline comment, and the rest. -/
def upTo (chars : Option CString) (s : List UInt8) : List UInt8 × List UInt8 :=
  walk (findStep chars) false s

/-- A line `[title]`; `rest` is what follows the bracket. -/
def readSection (ctx : Context) (rest : List UInt8) : Context × Line :=
  let cut := upTo (some (CString.ofString "]")) rest
  if cut.2.headD 0 = 93 then (⟨cut.1.take (MAX_SECTION - 1), []⟩, .silent)
  else (ctx, .malformed)

/-- A line `name = value` or `name : value`. -/
def readPair (ctx : Context) (body : List UInt8) : Context × Line :=
  let cut := upTo (some (CString.ofString "=:")) body
  if cut.2.headD 0 = 61 ∨ cut.2.headD 0 = 58 then
    let name := trimRight cut.1
    let value := trimRight (trimLeft (upTo none cut.2.tail).1)
    (⟨ctx.section_, name.take (MAX_NAME - 1)⟩,
      .pair ⟨.ofBytes ctx.section_, .ofBytes name, .ofBytes value⟩)
  else (ctx, .malformed)

/-- A line without its byte order mark, and what it leaves for the next. -/
def readLine (ctx : Context) (s : List UInt8) : Context × Line :=
  let text := trimRight s
  let body := trimLeft text
  let c := body.headD 0
  if strchr INI_START_COMMENT_PREFIXES c then (ctx, .silent)
  else if ctx.prev_name ≠ [] ∧ body.length < text.length then
    (ctx, .pair ⟨.ofBytes ctx.section_, .ofBytes ctx.prev_name, .ofBytes body⟩)
  else if c = 91 then readSection ctx body.tail
  else readPair ctx body

/-! ## Section 2: A text -/

/-- What the lines say, each in the context that the lines before it leave. -/
def readLines : Context → List (List UInt8) → List Line
  | _, [] => []
  | ctx, s :: ss => (readLine ctx s).2 :: readLines (readLine ctx s).1 ss

/-- The context after the lines. -/
def contextAfter : Context → List (List UInt8) → Context
  | ctx, [] => ctx
  | ctx, s :: ss => contextAfter (readLine ctx s).1 ss

/-- The byte order mark is no part of the text. -/
def dropBom (s : List UInt8) : List UInt8 := if BOM.isPrefixOf s then s.drop 3 else s

/-- A line of the file as it arrives in the buffer. It ends at the first NUL. -/
def received (content : List UInt8) : List (List UInt8) :=
  (Lines.pieces 10 (INI_MAX_LINE - 1) (INI_MAX_LINE - 1) content).map
    fun l => (CString.ofBytes l).bytes

/-- The lines that are read: those received, the first without the mark. -/
def linesOf (content : List UInt8) : List (List UInt8) :=
  match received content with
  | [] => []
  | l :: ls => dropBom l :: ls

/-- What the lines of a file say. -/
def readText (content : List UInt8) : List Line := readLines .start (linesOf content)

/-- The values named in a file, in the order of its lines. -/
def assignments (content : List UInt8) : List Assignment :=
  (readText content).filterMap Line.assignment?

/-! ## Section 3: What is observed -/

section observe

variable {σ : Type} (handler : Handler σ)

/-- The handler is called for a line that names a value. The result says whether
    the line is in error: malformed, or refused by the handler. -/
def judge (user : σ) : Line → Bool × σ
  | .silent => (false, user)
  | .malformed => (true, user)
  | .pair a => ((handler user a.section_ a.name a.value).1 = 0,
      (handler user a.section_ a.name a.value).2)

/-- Which lines are in error, and the state the handler is left in. -/
def observe : σ → List Line → List Bool × σ
  | user, [] => ([], user)
  | user, l :: ls =>
    ((judge handler user l).1 :: (observe (judge handler user l).2 ls).1,
      (observe (judge handler user l).2 ls).2)

end observe

/-- The number of the first line in error, counted from 1; `0` if there is
    none. -/
def firstError (errors : List Bool) : Nat :=
  match errors.findIdx? id with
  | some i => i + 1
  | none => 0

end Inih
