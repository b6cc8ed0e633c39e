import DataPath.Files.Access
import DataPath.Files.Path
import DataPath.Json.Printer
import DataPath.Json.Reader
import DataPath.Settings.Basic

/-!
# Where settings are kept

Settings are kept in a file, as indented JSON.  Unless the file is named explicitly it
is `dataswitch/settings.json` in the directory for configurations: the one that the
environment names, if that is an absolute path, or else `.config` in the home
directory.

A file that is named explicitly must exist.  A missing file at the usual place means
the default settings.
-/

namespace DataPath.Settings

/-- The part of the environment that says where configurations are. -/
structure Environment where
  /-- The directory for configurations, if one is named. -/
  configHome : Option String
  /-- The home directory, if it is known. -/
  home : Option String
  deriving Repr

/-- The directory of this program's configuration. -/
def Environment.directory? (env : Environment) : Option String :=
  match env.configHome.filter Files.isAbsolute with
  | some base => some (Files.join base "dataswitch")
  | none => env.home.map fun home => Files.join (Files.join home ".config") "dataswitch"

/-- The usual place of the settings. -/
def Environment.settingsPath? (env : Environment) : Option String :=
  env.directory?.map fun directory => Files.join directory "settings.json"

/-- What can go wrong with kept settings. -/
inductive StorageFault where
  /-- The file cannot be read. -/
  | unreadable (path : String)
  /-- The file does not hold settings. -/
  | malformed (path : String)
  /-- No file is named and there is no usual place. -/
  | noPlace
  /-- The directory cannot be made. -/
  | noDirectory (path : String)
  /-- The file cannot be written. -/
  | unwritable (path : String)
  deriving DecidableEq, Repr

/-- The message for a reader. -/
def StorageFault.message : StorageFault → String
  | .unreadable path => "Failed to read settings from " ++ path
  | .malformed path => "Failed to parse settings in " ++ path
  | .noPlace => "Could not determine settings path"
  | .noDirectory path => "Failed to create settings directory " ++ path
  | .unwritable path => "Failed to write settings to " ++ path

/-- The settings that a text holds. -/
def parse? (text : String) : Option Settings := (Json.parse? text).bind ofJson?

/-- The text in which settings are kept. -/
def print (s : Settings) : String := s.toJson.indented

variable {m : Type → Type} [Monad m]

/-- The settings in a file. -/
def readFrom (files : Files.Access m) (path : String) : m (Except StorageFault Settings) := do
  match ← files.read? path with
  | none => return .error (.unreadable path)
  | some text => match parse? text with
    | none => return .error (.malformed path)
    | some s => return .ok s

/-- The settings in the file that is named, or at the usual place. -/
def load (files : Files.Access m) (env : Environment) (path : Option String) :
    m (Except StorageFault Settings) := do
  match path with
  | some path => readFrom files path
  | none => match env.settingsPath? with
    | none => return .ok {}
    | some path => if ← files.exists? path then readFrom files path else return .ok {}

/-- Keep settings in the file that is named, or at the usual place, and tell where. -/
def save (s : Settings) (files : Files.Access m) (env : Environment) (path : Option String) :
    m (Except StorageFault String) := do
  match path <|> env.settingsPath? with
  | none => return .error .noPlace
  | some path =>
    match (Files.parent? path).filter fun directory => ¬directory.isEmpty with
    | some directory =>
      if ← files.createDirs directory then writeTo path
      else return .error (.noDirectory directory)
    | none => writeTo path
where
  /-- Write the settings to a file whose directory is there. -/
  writeTo (path : String) : m (Except StorageFault String) := do
    if ← files.write path s.print then return .ok path else return .error (.unwritable path)

end DataPath.Settings
