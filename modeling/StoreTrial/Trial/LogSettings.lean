import StoreTrial.Trial.LogFile
import StoreTrial.Trial.LogFilter
import StoreTrial.Trial.Settings

/-! # Log settings

Where the events of a harness are shown, in which style, and which of them.
-/

namespace StoreTrial

/-- Where events are shown. -/
inductive LogOutput where
  | console
  | file (path : String)
  | both (path : String)
  deriving DecidableEq

/-- The style events are shown in. -/
inductive LogStyle where
  | pretty
  | compact
  deriving DecidableEq

/-- The settings of a log. -/
structure LogSettings where
  level : String := "info"
  output : LogOutput := .console
  style : LogStyle := .compact
  deriving DecidableEq

/-- The file that events are written to, if any. -/
def LogOutput.file? : LogOutput → Option String
  | console => none
  | file path | both path => some path

/-- The destination in one line. -/
def LogOutput.outline : LogOutput → String
  | console => "Stdout"
  | file path => Text.outlineTagged "File" (Text.quote path)
  | both path => Text.outlineTagged "Both" (Text.quote path)

/-- The name of a style. -/
def LogStyle.label : LogStyle → String
  | pretty => "Pretty"
  | compact => "Compact"

namespace LogSettings

/-- The settings that show events of every weight. -/
def debug : LogSettings := { level := "debug" }

/-- The log settings of a harness. -/
def ofSettings (settings : Settings) : LogSettings := { level := settings.logLevel }

/-- The settings in one line. -/
def outline (settings : LogSettings) : String :=
  Text.outlineRecord "LogConfig"
    [("level", Text.quote settings.level), ("output", settings.output.outline),
      ("format", settings.style.label)]

/-- Why a log cannot be installed where there is one already: the filter is read
first, then the file for the day is made, and then the log is refused. -/
def installAgain (settings : LogSettings) (disk : Disk) (date : String) : Stop :=
  match LogFilter.check settings.level with
  | .error (.refused fault) => .failed (.invalidOperation (.badFilter settings.level fault))
  | .error (.splitCharacter fault) => .panicked fault.message
  | .ok () =>
      match settings.output.file?.map fun log => LogFile.create disk (.ofText log) date with
      | some (.error fault) => .panicked fault.message
      | _ => .failed (.invalidOperation .loggingInstalled)

end LogSettings

end StoreTrial
