import TeamspeakNotifications.Model.Decisions

/-! # Configuration and start

    `init_config` folds `handler` over the assignments of the configuration
    file. `ts3plugin_init` is to fail if the file is there and cannot be opened,
    and otherwise to greet the user unless the configuration says not to. To tell
    a file that is not there, `init_config` relies on `access`.

    * `configured`: what the last assignment of `show_welcome` asks for.
    * `handle_all`: the fold arrives there, whatever it starts from.
    * `Loaded`, `Started`: the outcomes of the two functions, for the files that
      are given as those to fail for.
    * `init_config_loaded`, `ts3plugin_init_started`: they fail if `access` sees
      the file and it cannot be opened.
    * `loaded_and_started_iff`: so they fail whenever the file is there and cannot
      be opened, exactly if `access` sees it.
-/

namespace TeamspeakNotifications

open Interaction CLib

/-! ## Section 1: The last assignment wins -/

/-- The assignment is about `show_welcome` in the section `plugin`. -/
def Assignment.IsWelcome (a : Assignment) : Prop :=
  a.section_ = CString.ofString "plugin" ∧ a.name = CString.ofString "show_welcome"

instance (a : Assignment) : Decidable a.IsWelcome := inferInstanceAs (Decidable (_ ∧ _))

/-- What an assignment sets `show_welcome` to. -/
def Assignment.welcome (a : Assignment) : Int :=
  if a.value = CString.ofString "false" then 0 else 1

/-- What the last assignment of `show_welcome` asks for; `default` if there is
    none. -/
def configured (default : Int) (assignments : List Assignment) : Int :=
  ((assignments.filter fun a => a.IsWelcome).getLast?.map Assignment.welcome).getD default

theorem configured_cons_of_welcome {a : Assignment} (ha : a.IsWelcome) (d : Int)
    (as : List Assignment) : configured d (a :: as) = configured a.welcome as := by
  unfold configured
  rw [List.filter_cons_of_pos (by simpa using ha), List.getLast?_cons]
  cases (as.filter fun a => a.IsWelcome).getLast? with
  | none => rfl
  | some last => rfl

theorem configured_cons_of_other {a : Assignment} (ha : ¬ a.IsWelcome) (d : Int)
    (as : List Assignment) : configured d (a :: as) = configured d as := by
  unfold configured
  rw [List.filter_cons_of_neg (by simpa using ha)]

/-- One call of the handler. -/
theorem handler_of_welcome {a : Assignment} (ha : a.IsWelcome) (conf : Conf) :
    (handler conf a.section_ a.name a.value).2 = ⟨a.welcome⟩ := by
  obtain ⟨hsection, hname⟩ := ha
  unfold handler
  rw [if_pos ⟨hsection, hname⟩]
  rfl

theorem handler_of_other {a : Assignment} (ha : ¬ a.IsWelcome) (conf : Conf) :
    (handler conf a.section_ a.name a.value).2 = conf := by
  have hkey : ¬ (a.section_ = CString.ofString "plugin" ∧
      a.name = CString.ofString "show_welcome") := ha
  unfold handler
  rw [if_neg hkey]

/-- All calls of the handler, by induction on the assignments. -/
theorem handle_all (as : List Assignment) (conf : Conf) :
    as.foldl (fun u a => (handler u a.section_ a.name a.value).2) conf =
      ⟨configured conf.show_welcome as⟩ := by
  induction as generalizing conf with
  | nil => rfl
  | cons a as ih =>
    rw [List.foldl_cons, ih]
    by_cases ha : a.IsWelcome
    · rw [handler_of_welcome ha, configured_cons_of_welcome ha]
    · rw [handler_of_other ha, configured_cons_of_other ha]

/-! ## Section 2: Outcomes -/

/-- The assignments that are read. -/
def IniFile.assignments : IniFile → List Assignment
  | .missing => []
  | .hidden => []
  | .unopenable => []
  | .openable assignments _ => assignments

/-- There is a file. -/
def IniFile.Present : IniFile → Prop
  | .missing => False
  | _ => True

/-- The file is there and cannot be opened. -/
def IniFile.Locked : IniFile → Prop
  | .hidden => True
  | .unopenable => True
  | _ => False

/-- If the file is there, `access` sees it. -/
def IniFile.Seen (file : IniFile) : Prop := file.Present → access file ≠ -1

/-- `access` sees the file, and it cannot be opened. -/
def IniFile.Refused (file : IniFile) : Prop := file.Locked ∧ access file ≠ -1

instance : DecidablePred IniFile.Locked
  | .missing => isFalse id
  | .hidden => isTrue trivial
  | .unopenable => isTrue trivial
  | .openable _ _ => isFalse id

instance (file : IniFile) : Decidable file.Refused := inferInstanceAs (Decidable (_ ∧ _))

theorem IniFile.present_of_locked {file : IniFile} (h : file.Locked) : file.Present := by
  cases file with
  | missing => exact h
  | hidden | unopenable | openable => trivial

/-- The files that `access` sees are refused rightly. -/
theorem IniFile.refused_iff_locked {file : IniFile} (h : file.Seen) :
    file.Refused ↔ file.Locked := by
  constructor
  · exact And.left
  · intro hlocked
    exact ⟨hlocked, h (present_of_locked hlocked)⟩

/-- A file that is not seen is locked, and is not refused. -/
theorem IniFile.seen_of_refused_iff {file : IniFile} (h : file.Refused ↔ file.Locked) :
    file.Seen := by
  intro hpresent
  cases file with
  | missing => exact hpresent.elim
  | hidden => exact (h.mpr trivial).2
  | unopenable | openable =>
    intro haccess
    cases haccess

/-- A file that cannot be opened leaves the defaults in `conf`. -/
theorem IniFile.conf_of_locked {file : IniFile} (h : file.Locked) :
    (⟨configured 1 file.assignments⟩ : Conf) = ⟨1⟩ := by
  cases file with
  | hidden | unopenable => rfl
  | missing | openable => exact h.elim

/-- `init_config`, spelt out: the previous content of `conf` and the reported
    line do not matter. -/
theorem init_config_eq (files : CString → IniFile) (home : CString) (conf : Conf) :
    init_config files home conf =
      (if (files (home ++ DEFAULT_CONFIG)).Refused then -1 else 0,
        ⟨configured 1 (files (home ++ DEFAULT_CONFIG)).assignments⟩) := by
  unfold init_config
  dsimp only
  cases files (home ++ DEFAULT_CONFIG) with
  | missing => rfl
  | hidden => rfl
  | unopenable => rfl
  | openable assignments line =>
    -- a parse error is reported as a positive number, so it is no failure
    have hline : ¬ ((line : Int) < 0 ∧ access (.openable assignments line) ≠ -1) := by
      intro h
      exact absurd h.1 (by omega)
    have hconf := handle_all assignments (set_default_values conf)
    simp only [ini_parse, if_neg hline, hconf]
    rfl

/-- What `init_config` makes of a file, if it fails for it when `fails` says so:
    its result and `conf` after it. -/
structure Loaded (fails : Prop) (file : IniFile) (res : Int) (conf : Conf) : Prop where
  fails_iff : res = -1 ↔ fails
  defaults : fails → conf = ⟨1⟩
  succeeds : ¬ fails → res = 0
  welcome : ¬ fails → conf.show_welcome = configured 1 file.assignments

/-- The notification that greets the user. -/
def greeting : Notification Str :=
  .notify (.arg ts3plugin_name) (.arg (CString.ofString "Hello, World!")) .LOW

/-- What `ts3plugin_init` makes of a file, likewise: its result, `conf` after it
    and the notifications it requests. -/
structure Started (fails : Prop) (file : IniFile) (res : Int) (conf : Conf)
    (requested : List (Notification Str)) : Prop where
  refuses : fails → res = 1 ∧ conf = ⟨1⟩ ∧ requested = []
  succeeds : ¬ fails → res = 0 ∧
    conf.show_welcome = configured 1 file.assignments ∧
    requested = if conf.show_welcome = 1 then [greeting] else []

section start

variable {σ : Type} (h : Library σ) (s : σ) (files : CString → IniFile) (home : CString)
  (conf : Conf)

theorem init_config_loaded :
    Loaded (files (home ++ DEFAULT_CONFIG)).Refused (files (home ++ DEFAULT_CONFIG))
      (init_config files home conf).1 (init_config files home conf).2 := by
  rw [init_config_eq]
  generalize files (home ++ DEFAULT_CONFIG) = file
  by_cases hrefused : file.Refused
  · have hconf := IniFile.conf_of_locked hrefused.1
    exact ⟨by simp [hrefused], fun _ => hconf, fun h => absurd hrefused h,
      fun h => absurd hrefused h⟩
  · exact ⟨by simp [hrefused], fun h => absurd h hrefused, fun _ => if_neg hrefused,
      fun _ => rfl⟩

theorem requests_show_welcome_message :
    requests ((show_welcome_message conf).run h s).trace =
      if conf.show_welcome = 1 then [greeting] else [] :=
  requests_when h s _ greeting

theorem ts3plugin_init_started :
    Started (files (home ++ DEFAULT_CONFIG)).Refused (files (home ++ DEFAULT_CONFIG))
      ((ts3plugin_init files home conf).run h s).value.1
      ((ts3plugin_init files home conf).run h s).value.2
      (requests ((ts3plugin_init files home conf).run h s).trace) := by
  unfold ts3plugin_init
  rw [init_config_eq]
  generalize files (home ++ DEFAULT_CONFIG) = file
  by_cases hrefused : file.Refused
  · have hconf := IniFile.conf_of_locked hrefused.1
    rw [if_pos hrefused]
    exact ⟨fun _ => ⟨rfl, hconf, rfl⟩, fun h => absurd hrefused h⟩
  · have hres : (0 : Int) ≠ -1 := by decide
    rw [if_neg hrefused]
    simp only [hres, if_false, Prog.run_bind, requests_append, requests_show_welcome_message]
    refine ⟨fun h => absurd h hrefused, fun _ => ⟨rfl, rfl, ?_⟩⟩
    exact List.append_nil _

/-- **Configuration and start.** Whatever earlier starts have left in `conf`, a
    start is to fail if the file is there and cannot be opened; otherwise its last
    assignment of `show_welcome` decides on the greeting. So it does if and only if
    `access` sees the file whenever it is there. -/
theorem loaded_and_started_iff :
    (Loaded (files (home ++ DEFAULT_CONFIG)).Locked (files (home ++ DEFAULT_CONFIG))
        (init_config files home conf).1 (init_config files home conf).2 ∧
      Started (files (home ++ DEFAULT_CONFIG)).Locked (files (home ++ DEFAULT_CONFIG))
        ((ts3plugin_init files home conf).run h s).value.1
        ((ts3plugin_init files home conf).run h s).value.2
        (requests ((ts3plugin_init files home conf).run h s).trace)) ↔
      (files (home ++ DEFAULT_CONFIG)).Seen := by
  have hloaded := init_config_loaded files home conf
  have hstarted := ts3plugin_init_started h s files home conf
  constructor
  · rintro ⟨hclaimed, -⟩
    apply IniFile.seen_of_refused_iff
    rw [← hloaded.fails_iff, hclaimed.fails_iff]
  · intro hseen
    rw [IniFile.refused_iff_locked hseen] at hloaded hstarted
    exact ⟨hloaded, hstarted⟩

end start

/-- The configuration is in a directory that may not be searched: it cannot be
    loaded, and the start goes on as if there were none. -/
theorem not_loaded_hidden :
    ¬ ∀ (files : CString → IniFile) (home : CString) (conf : Conf),
      Loaded (files (home ++ DEFAULT_CONFIG)).Locked (files (home ++ DEFAULT_CONFIG))
        (init_config files home conf).1 (init_config files home conf).2 := by
  intro h
  have hloaded := h (fun _ => .hidden) (CString.ofString "/home/bob") ⟨1⟩
  have hfails : (init_config (fun _ => .hidden) (CString.ofString "/home/bob") ⟨1⟩).1 = -1 :=
    hloaded.fails_iff.mpr trivial
  exact absurd hfails (by decide)

end TeamspeakNotifications
