import Mathlib.Data.List.TakeWhile

/-! # C strings and the buffers they are assembled in

    * `CString`: the byte strings a `char *` can point at, i.e. without a NUL.
    * `format`: what `printf` writes for a format whose only directive is `%s`.
    * `Buf cap`: a `char[cap]` that holds a string. The terminator has to fit
      too, and that it does is part of the type, so a write past the end has no
      result and shows as an `Overflow`.
    * `strcpy`, `strcat`, `snprintf` on such buffers.

    Sizes are natural numbers: the arguments of one call live side by side in
    one address space, so their lengths add up without wrapping. The result of
    `snprintf` is an `int`, which does limit what it can print.
-/

namespace CLib

/-- Bytes of a string literal (ASCII). -/
def lit (s : String) : List UInt8 := s.toList.map (fun c => UInt8.ofNat c.toNat)

/-! ## Section 1: Strings -/

/-- A C string: its bytes up to the terminator, none of which is NUL. -/
@[ext] structure CString where
  bytes : List UInt8
  noNul : 0 ∉ bytes
  deriving DecidableEq

namespace CString

/-- `strlen`. -/
def length (s : CString) : Nat := s.bytes.length

/-- The string a literal stands for; it ends at the first NUL. -/
def ofString (s : String) : CString where
  bytes := (lit s).takeWhile (· != 0)
  noNul := by
    intro h
    have hne := List.mem_takeWhile_imp h
    simp at hne

instance : Append CString where
  append s t := ⟨s.bytes ++ t.bytes, by simp [s.noNul, t.noNul]⟩

instance : Inhabited CString := ⟨⟨[], by simp⟩⟩

/-- The first `n` bytes. -/
def take (n : Nat) (s : CString) : CString :=
  ⟨s.bytes.take n, fun h => s.noNul (List.mem_of_mem_take h)⟩

@[simp] theorem bytes_append (s t : CString) : (s ++ t).bytes = s.bytes ++ t.bytes := rfl

@[simp] theorem length_append (s t : CString) :
    (s ++ t).length = s.length + t.length := by
  simp [length]

theorem take_of_length_le {n : Nat} {s : CString} (h : s.length ≤ n) : s.take n = s :=
  CString.ext (List.take_of_length_le h)

end CString

/-! ## Section 2: Formatting -/

/-- The bytes written for the format `fmt`: each `%s` (bytes 37 and 115) stands
    for the next argument, every other byte for itself. -/
def formatBytes : List UInt8 → List CString → List UInt8
  | [], _ => []
  | [c], _ => [c]
  | c :: d :: fmt, args =>
    if c = 37 ∧ d = 115 then
      match args with
      | a :: args => a.bytes ++ formatBytes fmt args
      | [] => formatBytes fmt []
    else c :: formatBytes (d :: fmt) args

theorem formatBytes_noNul (fmt : List UInt8) (args : List CString) (h : 0 ∉ fmt) :
    0 ∉ formatBytes fmt args := by
  induction fmt, args using formatBytes.induct with
  | case1 args => exact h
  | case2 args c => exact h
  | case3 c d fmt hcd a args ih =>
    have hfmt : 0 ∉ fmt := fun h' => h (by simp [h'])
    simp only [formatBytes, hcd, and_self, if_true, List.mem_append, not_or]
    exact ⟨a.noNul, ih hfmt⟩
  | case4 c d fmt hcd ih =>
    have hfmt : 0 ∉ fmt := fun h' => h (by simp [h'])
    simp only [formatBytes, hcd, and_self, if_true]
    exact ih hfmt
  | case5 c d fmt args hcd ih =>
    have hc : 0 ≠ c := fun h' => h (by simp [h'])
    have hfmt : 0 ∉ d :: fmt := fun h' => h (List.mem_cons_of_mem c h')
    simp only [formatBytes, hcd, if_false, List.mem_cons, not_or]
    exact ⟨hc, ih hfmt⟩

/-- What `printf(fmt, args...)` writes, for a format with `%s` only. -/
def format (fmt : CString) (args : List CString) : CString :=
  ⟨formatBytes fmt.bytes args, formatBytes_noNul fmt.bytes args fmt.noNul⟩

@[simp] theorem format_bytes (fmt : CString) (args : List CString) :
    (format fmt args).bytes = formatBytes fmt.bytes args := rfl

/-! ## Section 3: Buffers -/

/-- A write past the end of a buffer. -/
inductive Overflow where
  | overflow
  deriving DecidableEq

/-- A `char[cap]` holding the string `str`, terminator included. -/
structure Buf (cap : Nat) where
  str : CString
  fits : str.length < cap

/-- `strcpy` into an uninitialised `char[cap]`. -/
def strcpy (cap : Nat) (src : CString) : Except Overflow (Buf cap) :=
  if h : src.length < cap then .ok ⟨src, h⟩ else .error .overflow

/-- `strcat` onto what the buffer holds. -/
def strcat {cap : Nat} (dest : Buf cap) (src : CString) : Except Overflow (Buf cap) :=
  if h : (dest.str ++ src).length < cap then .ok ⟨dest.str ++ src, h⟩
  else .error .overflow

/-- The largest `int`. -/
def INT_MAX : Nat := 2147483647

/-- The string `snprintf` leaves in a `char[size]`: at most `size - 1` bytes. It
    fails (`EOVERFLOW`) if it cannot count them all in an `int`; what is in the
    buffer then is not specified, and given by `left`. -/
def snprintf (left : CString) (size : Nat) (fmt : CString) (args : List CString) : CString :=
  if (format fmt args).length ≤ INT_MAX then (format fmt args).take (size - 1) else left

theorem strcpy_of_fits {cap : Nat} {src : CString} (h : src.length < cap) :
    strcpy cap src = .ok ⟨src, h⟩ := dif_pos h

theorem strcat_of_fits {cap : Nat} {dest : Buf cap} {src : CString}
    (h : (dest.str ++ src).length < cap) :
    strcat dest src = .ok ⟨dest.str ++ src, h⟩ := dif_pos h

theorem snprintf_of_fits {left : CString} {size : Nat} {fmt : CString} {args : List CString}
    (hcount : (format fmt args).length ≤ INT_MAX) (h : (format fmt args).length < size) :
    snprintf left size fmt args = format fmt args := by
  have hlength : (format fmt args).length ≤ size - 1 := by omega
  unfold snprintf
  rw [if_pos hcount]
  exact CString.take_of_length_le hlength

theorem snprintf_of_overflow {left : CString} {size : Nat} {fmt : CString}
    {args : List CString} (hcount : INT_MAX < (format fmt args).length) :
    snprintf left size fmt args = left :=
  if_neg (Nat.not_le.mpr hcount)

end CLib
