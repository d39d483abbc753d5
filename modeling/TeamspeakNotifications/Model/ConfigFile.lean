import TeamspeakNotifications.Model.IniFormat
import TeamspeakNotifications.Model.Plugin

/-! # `config.c` on the bytes of the file

    `Config` takes `ini_parse` by its contract. Here `init_config` calls the
    parser of `inih-r42/ini.c` itself, on the file that `fopen` opens, and
    `ts3plugin_init` is built on that.

    * `OnDisk`: what there is at a path.
    * `init_config`, `ts3plugin_init`: as before, but for the parser.
    * `OnDisk.contract`: what the contract says of a file.
-/

namespace TeamspeakNotifications

open CLib

/-- What `fopen` and `access` find at a path. `content` is what reading delivers
    until the end or a read error. -/
inductive OnDisk where
  | missing
  | hidden
  | unopenable
  | readable (content : List UInt8)

/-- `fopen(path, "r")`. -/
def OnDisk.fopen : OnDisk → Option (List UInt8)
  | .readable content => some content
  | _ => none

/-- `access(path, F_OK)`. -/
def OnDisk.access : OnDisk → Int
  | .missing => -1
  | .hidden => -1
  | .unopenable => 0
  | .readable _ => 0

namespace FromFile

variable (files : CString → OnDisk) (home : CString) (line : Block Inih.INI_MAX_LINE)

/-- Load the configuration file below `home`, the value of `HOME`. Return -1 if
    the config cannot be loaded, otherwise 0. -/
def init_config (conf : Conf) : Except Fault (Int × Conf) := do
  let conf := set_default_values conf
  let fname := home ++ DEFAULT_CONFIG
  let parsed ← Inih.ini_parse handler line (files fname).fopen conf
  if parsed.1 < 0 ∧ (files fname).access ≠ -1 then
    return (-1, parsed.2) -- configuration exists and cannot be loaded
  else return (0, parsed.2)

/-- Custom code called right after loading the plugin. Returns 0 on success, 1 on
    failure. -/
def ts3plugin_init (conf : Conf) : Except Fault (PluginM (Int × Conf)) := do
  -- try to load the configuration
  let (res, conf) ← init_config files home line conf
  if res = -1 then return return (1, conf)
  else
    return do
      show_welcome_message conf
      return (0, conf)

end FromFile

/-! ## The plugin loaded and unloaded -/

/-- The variables of `plugin.c` that stay from one load to the next, where the
    library is not unmapped in between. A pointer is what `malloc` returned. -/
structure Globals where
  conf : Conf
  pluginID : Option Nat

/-- Custom code called right before the plugin is unloaded, and the pointer that
    it frees. -/
def ts3plugin_shutdown (g : Globals) : Option Nat × Globals :=
  match g.pluginID with
  | some p => (some p, { g with pluginID := none })
  | none => (none, g)

/-- One load of the plugin: what it finds on the disk, and the callbacks served
    before it is unloaded. -/
structure Boot where
  files : CString → OnDisk
  home : CString
  line : Block Inih.INI_MAX_LINE
  acts : List Activation

/-- The configuration file of a load. -/
def Boot.file (b : Boot) : OnDisk := b.files (b.home ++ DEFAULT_CONFIG)

/-- What came of a load: of the start, of the callbacks and of the shutdown. -/
structure Load (σ : Type) where
  start : Interaction.Outcome PluginSig σ (Int × Conf)
  steps : List (Step σ)
  freed : Option Nat

section load

variable {σ : Type} (h : Library σ)

/-- The state of the library after some callbacks. -/
def stateAfter (steps : List (Step σ)) (s : σ) : σ :=
  (steps.getLast?.map Step.after).getD s

/-- Load the plugin, serve the callbacks if it has started, and unload it. -/
def Boot.load (b : Boot) (g : Globals) (s : σ) : Except Fault (Load σ × Globals × σ) := do
  let init ← FromFile.ts3plugin_init b.files b.home b.line g.conf
  let start := init.run h s
  let steps := if start.value.1 = 0 then runCallbacks h b.acts start.state else []
  let (freed, g) := ts3plugin_shutdown { g with conf := start.value.2 }
  return (⟨start, steps, freed⟩, g, stateAfter steps start.state)

end load

end TeamspeakNotifications
