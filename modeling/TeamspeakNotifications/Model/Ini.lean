import TeamspeakNotifications.Framework.Lines
import TeamspeakNotifications.Framework.Memory

/-! # Model of `inih-r42/ini.c`

    The parser as it is built into the plugin, with every option of `ini.h` at
    its default: the line buffer is on the stack, values may go on over several
    lines, a BOM and inline comments are allowed, and an error does not stop it.

    * The buffers are blocks of memory, pointers are offsets into them, and
      every access is checked. A string handed to the handler is read from its
      block as the handler would read it.
    * `line` is not initialised: its first content is a parameter.
    * `fgets` is taken by its documentation. The stream is what it delivers
      until the end of the file or a read error, both of which end the loop.
    * `lineno` is an `int`, so counting past `INT_MAX` is a fault.
    * The loop of `ini_parse_stream` ends when its reader does; it is given fuel
      here.
-/

namespace Inih

open CLib

def MAX_SECTION : Nat := 50
def MAX_NAME : Nat := 50
def INI_MAX_LINE : Nat := 200
def INI_START_COMMENT_PREFIXES : CString := CString.ofString ";#"
def INI_INLINE_COMMENT_PREFIXES : CString := CString.ofString ";"

/-! ## Section 1: `ctype.h` and `string.h` -/

/-- `isspace`: space, `\t`, `\n`, `\v`, `\f` and `\r`. -/
def isspace (c : UInt8) : Bool := c == 32 || (9 ≤ c && c ≤ 13)

/-- `strchr(s, c) != NULL`: the terminator of `s` is found, too. -/
def strchr (s : CString) (c : UInt8) : Bool := c == 0 || s.bytes.contains c

/-- `strncpy(dest + i, src + p, size)`. -/
def strncpy {n k : Nat} (dest : Block n) (i : Nat) (src : Block k) (p : Nat) :
    Nat → Except Fault (Block n)
  | 0 => .ok dest
  | size + 1 => do
    let c ← src.load p
    if c = 0 then
      -- the rest is filled with NULs
      dest.write i (List.replicate (size + 1) 0)
    else
      let dest ← dest.store i c
      strncpy dest (i + 1) src (p + 1) size

/-! ## Section 2: Helpers of the parser -/

/-- The loop of `rstrip`, from `p` down to `s`. -/
def rstripLoop {n : Nat} (m : Block n) (s : Nat) : Nat → Except Fault (Block n)
  | 0 => .ok m
  | p + 1 =>
    if s < p + 1 then do
      let c ← m.load p
      if isspace c then
        let m ← m.store p 0
        rstripLoop m s p
      else return m
    else .ok m

/-- Strip whitespace chars off end of given string, in place. -/
def rstrip {n : Nat} (m : Block n) (s : Nat) : Except Fault (Block n) := do
  let len ← m.strlen s
  rstripLoop m s (s + len)

/-- One turn of the loop of `lskip`. -/
def lskipStep (_ : Unit) (c : UInt8) : Option Unit :=
  if c ≠ 0 ∧ isspace c then some () else none

/-- Return pointer to first non-whitespace char in given string. -/
def lskip {n : Nat} (m : Block n) (s : Nat) : Except Fault Nat := m.scan s lskipStep ()

/-- One turn of the loop of `find_chars_or_comment`, with its `was_space`. -/
def findStep (chars : Option CString) (was_space : Bool) (c : UInt8) : Option Bool :=
  if c ≠ 0 ∧ ¬ chars.any (strchr · c) ∧
      ¬ (was_space ∧ strchr INI_INLINE_COMMENT_PREFIXES c) then
    some (isspace c)
  else none

/-- Return pointer to first char (of chars) or inline comment in given string,
    or pointer to null at end of string if neither found. Inline comment must
    be prefixed by a whitespace character to register as a comment. -/
def find_chars_or_comment {n : Nat} (m : Block n) (s : Nat) (chars : Option CString) :
    Except Fault Nat := m.scan s (findStep chars) false

/-- Version of `strncpy` that ensures `dest` (`size` bytes) is null-terminated. -/
def strncpy0 {n k : Nat} (dest : Block n) (src : Block k) (p size : Nat) :
    Except Fault (Block n) := do
  let dest ← strncpy dest 0 src p (size - 1)
  dest.store (size - 1) 0

/-- `(unsigned char)p[0] == .. && (unsigned char)p[1] == .. && ..`. -/
def begins {n : Nat} (m : Block n) (p : Nat) : List UInt8 → Except Fault Bool
  | [] => .ok true
  | b :: bs => do
    let c ← m.load p
    if c = b then begins m (p + 1) bs else return false

/-- The UTF-8 byte order mark. -/
def BOM : List UInt8 := [0xEF, 0xBB, 0xBF]

/-- Where the text begins in the buffer. The first line may begin with a BOM. -/
def skip_bom {n : Nat} (line : Block n) (lineno : Nat) : Except Fault Nat :=
  if lineno = 1 then do
    let bom ← begins line 0 BOM
    return if bom then 3 else 0
  else .ok 0

/-- `if (*end) *end = '\0';` -/
def clip {n : Nat} (m : Block n) (end_ : Nat) : Except Fault (Block n) := do
  let c ← m.load end_
  if c ≠ 0 then m.store end_ 0 else return m

/-! ## Section 3: One line -/

/-- `ini_handler`, with what `user` points at as a state. Nonzero on success,
    zero on error. -/
abbrev Handler (σ : Type) := σ → CString → CString → CString → Int × σ

/-- The variables of `ini_parse_stream` that outlive a line. -/
structure Locals (σ : Type) where
  line : Block INI_MAX_LINE
  section_ : Block MAX_SECTION
  prev_name : Block MAX_NAME
  lineno : Nat
  error : Nat
  user : σ

section line

variable {σ : Type} (handler : Handler σ)

/-- `if (!error) error = lineno;` -/
def Locals.fail (s : Locals σ) : Locals σ :=
  { s with error := if s.error = 0 then s.lineno else s.error }

/-- `if (!HANDLER(user, section, name, value) && !error) error = lineno;` -/
def Locals.call (s : Locals σ) (name value : CString) : Except Fault (Locals σ) := do
  let section_ ← s.section_.str 0
  let res := handler s.user section_ name value
  let s := { s with user := res.2 }
  return if res.1 = 0 then s.fail else s

/-- Non-blank line with leading whitespace, treat as continuation of previous
    name's value. -/
def continuation_line (s : Locals σ) (start : Nat) : Except Fault (Locals σ) := do
  let name ← s.prev_name.str 0
  let value ← s.line.str start
  s.call handler name value

/-- A "[section]" line. -/
def section_line (s : Locals σ) (start : Nat) : Except Fault (Locals σ) := do
  let end_ ← find_chars_or_comment s.line (start + 1) (some (CString.ofString "]"))
  let c ← s.line.load end_
  if c = 93 then
    let line ← s.line.store end_ 0
    let section_ ← strncpy0 s.section_ line (start + 1) MAX_SECTION
    let prev_name ← s.prev_name.store 0 0
    return { s with line, section_, prev_name }
  else return s.fail -- no ']' found on section line

/-- Not a comment, must be a name[=:]value pair. -/
def pair_line (s : Locals σ) (start : Nat) : Except Fault (Locals σ) := do
  let end_ ← find_chars_or_comment s.line start (some (CString.ofString "=:"))
  let c ← s.line.load end_
  if c = 61 ∨ c = 58 then
    let line ← s.line.store end_ 0
    let line ← rstrip line start
    let value := end_ + 1
    let end_ ← find_chars_or_comment line value none
    let line ← clip line end_
    let value ← lskip line value
    let line ← rstrip line value
    -- valid name[=:]value pair found, call handler
    let prev_name ← strncpy0 s.prev_name line start MAX_NAME
    let s := { s with line, prev_name }
    let name ← s.line.str start
    let value ← s.line.str value
    s.call handler name value
  else return s.fail -- no '=' or ':' found on name[=:]value line

/-- The line, stripped, begins at `start`: what it is depends on its first byte,
    on the name before it and on whether it is indented. -/
def read_line (s : Locals σ) (start : Nat) : Except Fault (Locals σ) := do
  let c ← s.line.load start
  let prev ← s.prev_name.load 0
  if strchr INI_START_COMMENT_PREFIXES c then
    -- start-of-line comment, or nothing at all
    return s
  else if prev ≠ 0 ∧ c ≠ 0 ∧ 0 < start then continuation_line handler s start
  else if c = 91 then section_line s start
  else if c ≠ 0 then pair_line handler s start
  else return s

/-- `lineno++;` -/
def Locals.count (s : Locals σ) : Except Fault (Locals σ) :=
  if s.lineno = INT_MAX then .error .signedOverflow else .ok { s with lineno := s.lineno + 1 }

/-- The body of the loop of `ini_parse_stream`, `line` being read. -/
def parse_line (s : Locals σ) : Except Fault (Locals σ) := do
  let s ← s.count
  let start ← skip_bom s.line s.lineno
  let line ← rstrip s.line start
  let start ← lskip line start
  read_line handler { s with line } start

end line

/-! ## Section 4: The loop and its readers -/

/-- `ini_reader`, with what `stream` points at as a state; no result is `NULL`. -/
abbrev Reader (τ : Type) :=
  Block INI_MAX_LINE → Nat → τ → Except Fault (Option (Block INI_MAX_LINE × τ))

section stream

variable {σ τ : Type} (reader : Reader τ) (handler : Handler σ)

/-- Scan through stream line by line. -/
def parse_lines : Nat → τ → Locals σ → Except Fault (Locals σ)
  | 0, _, _ => .error .outOfFuel
  | fuel + 1, stream, s => do
    let read ← reader s.line INI_MAX_LINE stream
    match read with
    | none => return s
    | some (line, stream) =>
      let s ← parse_line handler { s with line }
      parse_lines fuel stream s

/-- `ini_parse_stream`; `line` is what its buffer happens to contain. -/
def ini_parse_stream (fuel : Nat) (stream : τ) (line : Block INI_MAX_LINE) (user : σ) :
    Except Fault (Int × σ) := do
  let s ← parse_lines reader handler fuel stream
    { line, section_ := .zero _, prev_name := .zero _, lineno := 0, error := 0, user }
  return (s.error, s.user)

end stream

/-- `fgets`: at most `num - 1` bytes, through the first newline, and a NUL. -/
def fgets {n : Nat} (str : Block n) (num : Nat) (stream : List UInt8) :
    Except Fault (Option (Block n × List UInt8)) :=
  if stream = [] then .ok none
  else do
    let str ← str.write 0 ((Lines.next 10 (num - 1) stream).1 ++ [0])
    return some (str, (Lines.next 10 (num - 1) stream).2)

/-- `ini_parse_string_ctx`, with `ptr` an offset into the string. -/
structure ini_parse_string_ctx where
  ptr : Nat
  num_left : Nat

/-- The loop of `ini_reader_string`. -/
def readerLoop {n k : Nat} (string : Block k) :
    Nat → Block n → Nat → ini_parse_string_ctx → Except Fault (Block n × ini_parse_string_ctx)
  | num + 2, str, strp, ctx =>
    if ctx.num_left ≠ 0 then do
      let c ← string.load ctx.ptr
      let ctx : ini_parse_string_ctx := ⟨ctx.ptr + 1, ctx.num_left - 1⟩
      let str ← str.store strp c
      if c = 10 then
        let str ← str.store (strp + 1) 0
        return (str, ctx)
      else readerLoop string (num + 1) str (strp + 1) ctx
    else do
      let str ← str.store strp 0
      return (str, ctx)
  | _, str, strp, ctx => do
    let str ← str.store strp 0
    return (str, ctx)

/-- An `ini_reader` function to read the next line from a string buffer. -/
def ini_reader_string {n k : Nat} (string : Block k) (str : Block n) (num : Nat)
    (ctx : ini_parse_string_ctx) : Except Fault (Option (Block n × ini_parse_string_ctx)) :=
  if ctx.num_left = 0 ∨ num < 2 then .ok none
  else some <$> readerLoop string num str 0 ctx

section entry

variable {σ : Type} (handler : Handler σ) (line : Block INI_MAX_LINE)

/-- `ini_parse_file`. -/
def ini_parse_file (file : List UInt8) (user : σ) : Except Fault (Int × σ) :=
  ini_parse_stream fgets handler (file.length + 1) file line user

/-- `ini_parse`; `file` is what `fopen` opens, if it does. -/
def ini_parse (file : Option (List UInt8)) (user : σ) : Except Fault (Int × σ) :=
  match file with
  | none => .ok (-1, user)
  | some file => ini_parse_file handler line file user

/-- `ini_parse_string`, on a string at the beginning of a block. -/
def ini_parse_string {k : Nat} (string : Block k) (user : σ) : Except Fault (Int × σ) := do
  let num_left ← string.strlen 0
  ini_parse_stream (ini_reader_string string) handler (num_left + 1) ⟨0, num_left⟩ line user

end entry

end Inih
