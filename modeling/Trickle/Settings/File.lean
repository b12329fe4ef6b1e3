/-
This file takes the settings from what reading their file gave. The file has to be
there and has to be text, the text has to hold settings, and the settings have to be
usable; the first of these that fails is reported.
-/

import Trickle.Files
import Trickle.Settings.Document

namespace Trickle

/-- Why the settings file gives no usable settings. -/
inductive SettingsFault where
  | unreadable (fault : FileFault)
  | unfit (error : DocumentError)
  | unusable (problem : SettingsProblem)
  deriving DecidableEq, Repr

namespace Settings

/-- Where the settings are kept. -/
def path : String := "data/config.toml"

end Settings

/-- The wording of a fault. -/
def SettingsFault.message : SettingsFault → String
  | .unreadable fault => s!"Failed to read config from {Settings.path}: {fault.message}"
  | .unfit error =>
    s!"Failed to read config from {Settings.path}: TOML parse error: {error.message}"
  | .unusable problem => problem.message

/-- Whether a fault is none that can be reported. -/
def SettingsFault.isBreakdown : SettingsFault → Bool
  | .unusable problem => problem.isBreakdown
  | _ => false

namespace Settings

/-- The settings that the contents of the file give. -/
def ofFile (contents : Except FileFault Bytes) : Except SettingsFault Settings :=
  match contents with
  | .error fault => .error (.unreadable fault)
  | .ok bytes =>
    match Utf8.decode? bytes with
    | none => .error (.unreadable .notText)
    | some text =>
      match read text with
      | .error error => .error (.unfit error)
      | .ok settings =>
        match settings.validate with
        | .error problem => .error (.unusable problem)
        | .ok () => .ok settings

end Settings

end Trickle
