import RouterMetrics.Cli.Arguments

/-!
What the command line tells about itself: its version, and how it is used.
-/

namespace RouterMetrics.Cli

/-- The name of the command. -/
def commandName : String := "mtik-exporter"

/-- The line that tells the version. -/
def versionText : String := commandName ++ " 0.1.0\n"

/-- What the variable of an option holds. -/
def variableText (env : Config.Environment) (s : Setting) : String :=
  "[env: " ++ s.envName ++ "=" ++ (env.get? s.envName).getD "" ++ "]"

/-- An option and what it is for. -/
def entry (option purpose : String) : List String := ["  " ++ option, "          " ++ purpose]

/-- How the command is used. -/
def helpText (env : Config.Environment) : String :=
  let lines :=
    ["mtik_exporter - RouterOS Prometheus Exporter", "",
     "Usage: " ++ commandName ++ " [OPTIONS]", "", "Options:"] ++
    entry "-c, --config <CONFIG>"
      ("Path to configuration file " ++ variableText env .config ++
        " [default: " ++ standardConfig ++ "]") ++
    entry "    --export-address <EXPORT_ADDRESS>"
      ("Exposition bind address (overrides config file) " ++ variableText env .exportAddress) ++
    entry "    --export-port <EXPORT_PORT>"
      ("Exposition port (overrides config file) " ++ variableText env .exportPort) ++
    entry "-h, --help" "Print help" ++
    entry "-V, --version" "Print version"
  "".intercalate (lines.map (· ++ "\n"))

/-- What is told to someone who misused the command. -/
def misuseText (m : Misuse) : String :=
  m.message ++ "\n\nUsage: " ++ commandName ++ " [OPTIONS]\n\nFor more information, try '--help'.\n"

end RouterMetrics.Cli
