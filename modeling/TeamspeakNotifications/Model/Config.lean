import TeamspeakNotifications.Framework.CString

/-! # Model of `config.c`

    `init_config` sets the defaults, then lets `ini_parse` call `handler` for
    every assignment of the configuration file. `ini_parse` is taken by its
    contract in `ini.h`: `-1` and no call if the file cannot be opened,
    otherwise one call for every assignment, errors or not, and the line of the
    first error, or `0`.
-/

namespace TeamspeakNotifications

open CLib

/-- `struct Conf`. -/
structure Conf where
  show_welcome : Int
  deriving DecidableEq

/-- One `name = value` line, with the section it stands in. -/
structure Assignment where
  section_ : CString
  name : CString
  value : CString

/-- A path as `fopen` and `access` see it. Neither finds a file that is `hidden`:
    it is there, but below a directory that may not be searched. `line` is what
    `ini_parse` reports for the file: the line of its first error, `0` if there
    is none. -/
inductive IniFile where
  | missing
  | hidden
  | unopenable
  | openable (assignments : List Assignment) (line : Nat)

/-- `ini_parse`, by its contract. -/
def ini_parse {σ : Type} (file : IniFile)
    (handler : σ → CString → CString → CString → Int × σ) (user : σ) : Int × σ :=
  match file with
  | .missing => (-1, user)
  | .hidden => (-1, user)
  | .unopenable => (-1, user)
  | .openable assignments line =>
    (line, assignments.foldl (fun u a => (handler u a.section_ a.name a.value).2) user)

/-- `access(path, F_OK)`. -/
def access : IniFile → Int
  | .missing => -1
  | .hidden => -1
  | .unopenable => 0
  | .openable _ _ => 0

def DEFAULT_CONFIG : CString :=
  CString.ofString "/.ts3client/plugins/teamspeak-notifications/config.ini"

/-- Nonzero on success, zero for an unknown section or name. -/
def handler (pconf : Conf) (section_ name value : CString) : Int × Conf :=
  if section_ = CString.ofString "plugin" ∧ name = CString.ofString "show_welcome" then
    -- any other value than `false` turns the message on
    (1, { pconf with show_welcome := if value = CString.ofString "false" then 0 else 1 })
  else (0, pconf) -- unknown section/name

/-- Set the default values of the config struct. -/
def set_default_values (conf : Conf) : Conf := { conf with show_welcome := 1 }

/-- Load the configuration file below `home`, the value of `HOME`. Return -1 if
    the config cannot be loaded, otherwise 0. -/
def init_config (files : CString → IniFile) (home : CString) (conf : Conf) : Int × Conf :=
  let conf := set_default_values conf
  let fname := home ++ DEFAULT_CONFIG
  -- the handler's assignments stand even if the file has an error
  let parsed := ini_parse (files fname) handler conf
  if parsed.1 < 0 ∧ access (files fname) ≠ -1 then
    (-1, parsed.2) -- configuration exists and cannot be loaded
  else (0, parsed.2)

end TeamspeakNotifications
