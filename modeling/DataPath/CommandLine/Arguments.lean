/-!
# Arguments of the command line

The program understands two options: where the settings are, and that the default
settings are to be written there.  An option has a long name after two hyphens, and may
have a short one of a single letter after one hyphen.  The value of an option follows it
as the next argument, or in the same argument: after an equals sign, or right after the
short name.  No option may be given twice.

Arguments are read from left to right, and what is read first decides: somebody who asks
for help gets it unless an argument before that was wrong.
-/

namespace DataPath.CommandLine

/-- What the arguments ask for. -/
structure Arguments where
  /-- The file with the settings, if it is named. -/
  settings : Option String := none
  /-- Whether the default settings are to be written. -/
  writeDefault : Bool := false
  deriving DecidableEq, Repr

/-- What the program is to do. -/
inductive Invocation where
  /-- Do what the arguments ask for. -/
  | perform (arguments : Arguments)
  | help
  | version
  /-- The arguments make no sense. -/
  | misuse (message : String)
  deriving DecidableEq, Repr

namespace Arguments

/-- How an option is complained about that is not known. -/
def unexpected (argument : String) : Invocation :=
  .misuse ("unexpected argument '" ++ argument ++ "' found")

/-- How an option without its value is complained about. -/
def valueMissing : Invocation :=
  .misuse "a value is required for '--settings <SETTINGS>' but none was supplied"

/-- How an option is complained about that is given twice. -/
def repeated (option : String) : Invocation :=
  .misuse ("the argument '" ++ option ++ "' cannot be used multiple times")

/-- Whether an argument can be the value of the option before it. -/
def isValue (argument : String) : Bool :=
  match argument.toList with
  | '-' :: _ :: _ => false
  | _ => true

/-- A long option without its hyphens: its name, and its value if there is one. -/
def splitLong (cs : List Char) : String × Option String :=
  match cs.dropWhile (· ≠ '=') with
  | [] => (String.ofList cs, none)
  | _ :: value => (String.ofList (cs.takeWhile (· ≠ '=')), some (String.ofList value))

/-- The arguments with the settings named, if that is possible, read on by `next`. -/
def nameSettings (given : Arguments) (path : String) (next : Arguments → Invocation) :
    Invocation :=
  if given.settings.isSome then repeated "--settings <SETTINGS>"
  else if path.isEmpty then valueMissing
  else next { given with settings := some path }

/-- Read arguments, after some have been given already. -/
def readFrom (given : Arguments) : List String → Invocation
  | [] => .perform given
  | argument :: rest => match argument.toList with
    | '-' :: '-' :: [] => match rest with
      | [] => .perform given
      | extra :: _ => unexpected extra
    | '-' :: '-' :: cs => match splitLong cs with
      | ("settings", some path) => given.nameSettings path fun given => readFrom given rest
      | ("settings", none) => match rest with
        | path :: rest =>
          if isValue path then given.nameSettings path fun given => readFrom given rest
          else valueMissing
        | [] => valueMissing
      | ("write-default", none) =>
        if given.writeDefault then repeated "--write-default"
        else readFrom { given with writeDefault := true } rest
      | ("help", none) => .help
      | ("version", none) => .version
      | _ => unexpected argument
    | '-' :: 's' :: [] => match rest with
      | path :: rest =>
        if isValue path then given.nameSettings path fun given => readFrom given rest
        else valueMissing
      | [] => valueMissing
    | '-' :: 's' :: '=' :: path =>
      given.nameSettings (String.ofList path) fun given => readFrom given rest
    | '-' :: 's' :: path =>
      given.nameSettings (String.ofList path) fun given => readFrom given rest
    | '-' :: 'h' :: _ => .help
    | '-' :: 'V' :: _ => .version
    | _ => unexpected argument

/-- Read the arguments of the command line. -/
def read (arguments : List String) : Invocation := readFrom {} arguments

end Arguments

end DataPath.CommandLine
