import RouterMetrics.Config.Encoding
import RouterMetrics.Config.Reader
import RouterMetrics.Config.Validation

/-!
The configuration: settings that have been read and found fit for use.
-/

namespace RouterMetrics

open Config

/-- Why there is no configuration: the file cannot be read, its text writes no settings, or the
settings cannot be used. -/
inductive ConfigError
  | unreadable
  | malformed
  | invalid (fault : Fault)
deriving DecidableEq

/-- The text for settings that cannot be used. -/
def Config.Fault.report (fault : Fault) : String := "config validation error: " ++ fault.message

namespace Config

/-- Settings that a text writes and that can be used. -/
def read (text : String) : Except ConfigError Settings :=
  match Settings.ofYaml? text with
  | none => .error .malformed
  | some s =>
    match s.check with
    | .ok _ => .ok s
    | .error fault => .error (.invalid fault)

/-- Settings from the bytes of a file, if there is one. -/
def load (file : Option ByteArray) : Except ConfigError Settings :=
  match file.bind String.fromUTF8? with
  | none => .error .unreadable
  | some text => read text

end Config

end RouterMetrics
