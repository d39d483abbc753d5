import Mathlib.Data.List.Basic

/-! # Arguments of a command

    A program reads its arguments from left to right. A word is an option or a
    positional, wherever it stands; an option may take the next word as its
    value, and one word ends the options. What a word is and what an option word
    means is given by a table.

    * `Reading`, `Table`: what a program makes of its words.
    * `parse`: the options and the positionals of an argument list, if nothing
      is wrong with it.
    * `positionals_sublist`: where the positionals come from.
    * `parse_around_iff`: two words around an option with its value are both
      positionals exactly if neither is an option.
-/

namespace Options

variable {ω ν : Type}

/-- What an option word means. Options come with their values. -/
inductive Reading (ω ν : Type) where
  /-- It ends the options. -/
  | stop
  /-- The program does not know it. -/
  | unknown
  /-- It is complete. -/
  | plain (options : List (ν × Option ω))
  /-- One of its options takes the next word. -/
  | wanting (before : List (ν × Option ω)) (name : ν) (after : List (ν × Option ω))

/-- What each word means; `none` for a positional. -/
abbrev Table (ω ν : Type) := ω → Option (Reading ω ν)

/-- The outcome of a parse. -/
structure Parsed (ω ν : Type) where
  options : List (ν × Option ω)
  positionals : List ω

namespace Parsed

/-- The outcome with options in front. -/
def given (os : List (ν × Option ω)) (p : Parsed ω ν) : Parsed ω ν :=
  ⟨os ++ p.options, p.positionals⟩

/-- The outcome with a positional in front. -/
def positional (w : ω) (p : Parsed ω ν) : Parsed ω ν :=
  ⟨p.options, w :: p.positionals⟩

end Parsed

/-- Read an argument list; `none` on an unknown option or a missing value. -/
def parse (T : Table ω ν) : List ω → Option (Parsed ω ν)
  | [] => some ⟨[], []⟩
  | w :: ws =>
    match T w with
    | none => (parse T ws).map (Parsed.positional w)
    | some .stop => some ⟨[], ws⟩
    | some .unknown => none
    | some (.plain os) => (parse T ws).map (Parsed.given os)
    | some (.wanting before name after) =>
      match ws with
      | [] => none
      | v :: vs => (parse T vs).map (Parsed.given (before ++ (name, some v) :: after))

section parse

variable {T : Table ω ν} {w v : ω} {ws : List ω}

theorem parse_positional (hw : T w = none) :
    parse T (w :: ws) = (parse T ws).map (Parsed.positional w) := by
  rw [parse, hw]

theorem parse_stop (hw : T w = some .stop) : parse T (w :: ws) = some ⟨[], ws⟩ := by
  rw [parse, hw]

theorem parse_unknown (hw : T w = some .unknown) : parse T (w :: ws) = none := by
  rw [parse, hw]

theorem parse_plain {os : List (ν × Option ω)} (hw : T w = some (.plain os)) :
    parse T (w :: ws) = (parse T ws).map (Parsed.given os) := by
  rw [parse, hw]

section wanting

variable {before after : List (ν × Option ω)} {name : ν}
  (hw : T w = some (.wanting before name after))
include hw

theorem parse_missing : parse T [w] = none := by
  rw [parse, hw]

theorem parse_wanting :
    parse T (w :: v :: ws) =
      (parse T ws).map (Parsed.given (before ++ (name, some v) :: after)) := by
  rw [parse, hw]

end wanting

/-- Words none of which is an option are the positionals. -/
theorem parse_of_positionals (hws : ∀ w ∈ ws, T w = none) : parse T ws = some ⟨[], ws⟩ := by
  induction ws with
  | nil => rfl
  | cons w ws ih =>
    have hw : T w = none := hws w (List.mem_cons_self ..)
    have hrest : ∀ v ∈ ws, T v = none := fun v hv => hws v (List.mem_cons_of_mem w hv)
    rw [parse_positional hw, ih hrest]
    rfl

/-- The positionals are words of the list, in its order. -/
theorem positionals_sublist {p : Parsed ω ν} (hp : parse T ws = some p) :
    p.positionals.Sublist ws := by
  induction ws using parse.induct T generalizing p with
  | case1 => cases hp; exact List.Sublist.slnil
  | case2 w ws hw ih =>
    rw [parse_positional hw] at hp
    obtain ⟨q, hq, rfl⟩ := Option.map_eq_some_iff.mp hp
    exact (ih hq).cons_cons w
  | case3 w ws hw =>
    rw [parse_stop hw] at hp
    cases hp
    exact List.sublist_cons_self w ws
  | case4 w ws hw =>
    rw [parse_unknown hw] at hp
    cases hp
  | case5 w ws os hw ih =>
    rw [parse_plain hw] at hp
    obtain ⟨q, hq, rfl⟩ := Option.map_eq_some_iff.mp hp
    exact (ih hq).cons w
  | case6 w before name after hw =>
    rw [parse_missing hw] at hp
    cases hp
  | case7 w before name after hw v vs ih =>
    rw [parse_wanting hw] at hp
    obtain ⟨q, hq, rfl⟩ := Option.map_eq_some_iff.mp hp
    exact ((ih hq).cons v).cons w

/-- An option word by itself is no positional. -/
theorem positionals_of_option {p : Parsed ω ν} (hw : T w ≠ none) (hp : parse T [w] = some p) :
    p.positionals = [] := by
  cases hr : T w with
  | none => exact absurd hr hw
  | some r =>
    cases r with
    | stop =>
      rw [parse_stop hr] at hp
      cases hp
      rfl
    | unknown =>
      rw [parse_unknown hr] at hp
      cases hp
    | plain os =>
      rw [parse_plain hr] at hp
      cases hp
      rfl
    | wanting before name after =>
      rw [parse_missing hr] at hp
      cases hp

end parse

section around

variable {T : Table ω ν} {o v : ω} {name : ν} (ho : T o = some (.wanting [] name []))
include ho

theorem parse_value {ws : List ω} :
    parse T (o :: v :: ws) = (parse T ws).map (Parsed.given [(name, some v)]) :=
  parse_wanting ho

/-- In front of the option, an option word is not among the positionals. -/
theorem not_parse_of_first (hv : T v = none) (s b : ω) (hs : T s ≠ none) :
    parse T [s, o, v, b] ≠ some ⟨[(name, some v)], [s, b]⟩ := by
  intro hp
  cases hr : T s with
  | none => exact hs hr
  | some r =>
    cases r with
    | stop =>
      rw [parse_stop hr] at hp
      cases hp
    | unknown =>
      rw [parse_unknown hr] at hp
      cases hp
    | plain os =>
      -- only the last word is left for the positionals
      rw [parse_plain hr, parse_value ho] at hp
      obtain ⟨q, hq, heq⟩ := Option.map_eq_some_iff.mp hp
      obtain ⟨q', hq', rfl⟩ := Option.map_eq_some_iff.mp hq
      have hpos : q'.positionals = [s, b] := congrArg Parsed.positionals heq
      have hle := (positionals_sublist hq').length_le
      rw [hpos] at hle
      simp at hle
    | wanting before name' after =>
      -- the option is taken for a value, and its own value for a positional
      rw [parse_wanting hr, parse_positional hv] at hp
      obtain ⟨q, hq, heq⟩ := Option.map_eq_some_iff.mp hp
      obtain ⟨q', -, rfl⟩ := Option.map_eq_some_iff.mp hq
      have hpos : v :: q'.positionals = [s, b] := congrArg Parsed.positionals heq
      have hvs : v = s := (List.cons.inj hpos).1
      exact hs (hvs ▸ hv)

/-- Behind the option, an option word is not among the positionals. -/
theorem not_parse_of_last (s b : ω) (hs : T s = none) (hb : T b ≠ none) :
    parse T [s, o, v, b] ≠ some ⟨[(name, some v)], [s, b]⟩ := by
  intro hp
  rw [parse_positional hs, parse_value ho] at hp
  obtain ⟨q, hq, heq⟩ := Option.map_eq_some_iff.mp hp
  obtain ⟨q', hq', rfl⟩ := Option.map_eq_some_iff.mp hq
  have hpos : s :: q'.positionals = [s, b] := congrArg Parsed.positionals heq
  rw [positionals_of_option hb hq'] at hpos
  cases hpos

/-- **Around an option.** Of two words around an option with its value, both are
    positionals if and only if neither is an option. -/
theorem parse_around_iff (hv : T v = none) (s b : ω) :
    parse T [s, o, v, b] = some ⟨[(name, some v)], [s, b]⟩ ↔ T s = none ∧ T b = none := by
  constructor
  · intro hp
    have hs : T s = none := by
      by_contra hs
      exact not_parse_of_first ho hv s b hs hp
    have hb : T b = none := by
      by_contra hb
      exact not_parse_of_last ho s b hs hb hp
    exact ⟨hs, hb⟩
  · rintro ⟨hs, hb⟩
    have hlast : parse T [b] = some ⟨[], [b]⟩ :=
      parse_of_positionals fun w hw => by rw [List.mem_singleton.mp hw, hb]
    rw [parse_positional hs, parse_value ho, hlast]
    rfl

end around

end Options
