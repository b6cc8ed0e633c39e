import DataPath.CommandLine.Arguments
import DataPath.Scenario.Run
import DataPath.Settings.Storage

/-!
# The program

The program runs the scenario of some settings and prints the report, or writes the
default settings.  A run in which the modem was told to carry data on two slots is a
failure, although the report is printed.

The effects of the program are those of a monad `m`, by which files are accessed.
-/

namespace DataPath.CommandLine

/-- What the program leaves behind. -/
structure Result where
  exitCode : UInt32 := 0
  output : String := ""
  errors : String := ""
  deriving DecidableEq, Repr

/-- The name and the version of the program. -/
def versionText : String := "dataswitch 0.4.0\n"

/-- How the program is used. -/
def usage : String := "Usage: dataswitch [OPTIONS]\n"

/-- What somebody is told who asks for help. -/
def helpText : String :=
  "Drive the data-connection switch through a scenario\n\n" ++ usage ++
  "\nOptions:\n" ++
  "  -s, --settings <SETTINGS>  Settings file" ++
  " (defaults to $XDG_CONFIG_HOME/dataswitch/settings.json)\n" ++
  "      --write-default        Write the default settings to the settings path and exit\n" ++
  "  -h, --help                 Print help\n" ++
  "  -V, --version              Print version\n"

/-- The causes of a failure; several of them are numbered. -/
def causes : List String → String
  | [] => ""
  | [cause] => "\nCaused by:\n    " ++ cause ++ "\n"
  | chain =>
    "\nCaused by:\n" ++ String.join (chain.mapIdx fun i cause =>
      "    " ++ toString i ++ ": " ++ cause ++ "\n")

/-- A failure: what happened, and then what caused it. -/
def failure (output : String) : List String → Result
  | [] => { exitCode := 1, output := output }
  | message :: chain =>
    { exitCode := 1, output := output, errors := "Error: " ++ message ++ "\n" ++ causes chain }

/-- How the program complains about its arguments. -/
def complaint (message : String) : Result where
  exitCode := 2
  errors := "error: " ++ message ++ "\n\n" ++ usage ++ "\nFor more information, try '--help'.\n"

/-- Run the scenario of some settings. -/
def perform (settings : Settings) : Result :=
  match Scenario.run settings with
  | .error fault => failure "" fault.chain
  | .ok report =>
    let output := report.toJson.indented ++ "\n"
    if report.isViolated then
      failure output ["Virtual modem recorded " ++ toString report.stats.violations ++
        " single-data-path violations"]
    else { output := output }

variable {m : Type → Type} [Monad m]

/-- Do what the command line asks for. -/
def run (files : Files.Access m) (env : Settings.Environment) (arguments : List String) :
    m Result := do
  match Arguments.read arguments with
  | .help => return { output := helpText }
  | .version => return { output := versionText }
  | .misuse message => return complaint message
  | .perform arguments =>
    if arguments.writeDefault then
      match ← Settings.save {} files env arguments.settings with
      | .ok _ => return {}
      | .error fault => return failure "" [fault.message]
    else match ← Settings.load files env arguments.settings with
      | .ok settings => return perform settings
      | .error fault => return failure "" [fault.message]

end DataPath.CommandLine
