/-!
# The command line

What the arguments of the program mean.  Options come before the task; an option given twice, an
empty path, and anything left over are misuse.
-/

namespace SandboxHost

/-- What the program can do. -/
inductive Task
  /-- Run a file once, and report in JSON if that is asked for. -/
  | run (file : String) (json : Bool)
  /-- Edit and run a draft, reading lines. -/
  | dialogue
  /-- Print the sample program. -/
  | sample
  deriving DecidableEq, Repr

/-- The options before the task. -/
structure Options where
  /-- The path of the settings' file. -/
  settings : Option String := none
  /-- The path of the guest module. -/
  guest : Option String := none
  /-- Show the error stream apart. -/
  split : Bool := false
  /-- Ask for more log lines. -/
  verbose : Bool := false
  deriving DecidableEq, Repr

/-- What the arguments ask for. -/
inductive Request
  | perform (options : Options) (task : Task)
  | version
  | help
  | misuse
  deriving DecidableEq, Repr

/-- The environment variable that may name the guest module. -/
def guestVariable : String := "PANKTI_MODULE"

namespace Request

/-- Whether an argument looks like an option.  A single hyphen does not. -/
def isOption (argument : String) : Bool :=
  argument.toList.head? == some '-' && argument != "-"

/-- The name of a long option and the value attached to it. -/
def splitLong? (argument : String) : Option (String × Option String) :=
  match argument.toList with
  | '-' :: '-' :: chars =>
      let name := chars.takeWhile (· != '=')
      let value := match chars.drop name.length with
        | _ :: value => some (String.ofList value)
        | [] => none
      some (String.ofList name, value)
  | _ => none

/-- The options that an argument has one letter each for, from its hyphen on. -/
def readLetters (options : Options) : List Char → Except Request Options
  | [] => .ok options
  | 'v' :: letters =>
      if options.verbose then .error .misuse
      else readLetters { options with verbose := true } letters
  | 'V' :: _ => .error .version
  | 'h' :: _ => .error .help
  | _ => .error .misuse

/-- An option without a value. -/
def readSwitch (options : Options) : String → Except Request Options
  | "help" => .error .help
  | "version" => .error .version
  | "split-streams" =>
      if options.split then .error .misuse else .ok { options with split := true }
  | "verbose" =>
      if options.verbose then .error .misuse else .ok { options with verbose := true }
  | _ => .error .misuse

/-- An option with a path. -/
def readPath (options : Options) (name path : String) : Except Request Options :=
  if path.isEmpty then .error .misuse
  else
    match name with
    | "config" =>
        if options.settings.isSome then .error .misuse
        else .ok { options with settings := some path }
    | "module" =>
        if options.guest.isSome then .error .misuse
        else .ok { options with guest := some path }
    | _ => .error .misuse

/-- Whether a long option takes a path. -/
def takesPath (name : String) : Bool :=
  name == "config" || name == "module"

/-- The arguments of the task that runs a file.  After `--` every argument is a file. -/
def readRun (file : Option String) (json : Bool) (literal : Bool) :
    List String → Except Request Task
  | [] =>
      match file with
      | some file => .ok (.run file json)
      | none => .error .misuse
  | argument :: later =>
      if !literal && argument == "--" then readRun file json true later
      else if !literal && isOption argument then
        match argument with
        | "--json" => if json then .error .misuse else readRun file true literal later
        | "--help" => .error .help
        | _ => if argument.startsWith "-h" then .error .help else .error .misuse
      else if file.isSome || argument.isEmpty then .error .misuse
      else readRun (some argument) json literal later

/-- The arguments of a task that has none. -/
def readNone (task : Task) : List String → Except Request Task
  | [] => .ok task
  | "--" :: [] => .ok task
  | argument :: _ =>
      if argument == "--help" || argument.startsWith "-h" then .error .help else .error .misuse

/-- The names of the tasks. -/
def taskNames : List String :=
  ["run", "repl", "sample", "help"]

/-- What follows the word that asks for help: at most a task. -/
def readHelp : List String → Request
  | [] => .help
  | "help" :: later => if later.all taskNames.contains then .help else .misuse
  | [name] => if taskNames.contains name then .help else .misuse
  | _ => .misuse

/-- The task and its arguments. -/
def readTask (name : String) (arguments : List String) : Except Request Task :=
  match name with
  | "run" => readRun none false false arguments
  | "repl" => readNone .dialogue arguments
  | "sample" => readNone .sample arguments
  | "help" => .error (readHelp arguments)
  | _ => .error .misuse

/-- Options, then a task. -/
def readAll (options : Options) : List String → Except Request (Options × Task)
  | [] => .error .misuse
  | argument :: later =>
      if argument == "--" then .error .misuse
      else
        match splitLong? argument with
        | some (name, some value) => do
            if !takesPath name then .error .misuse
            readAll (← readPath options name value) later
        | some (name, none) =>
            if takesPath name then
              match later with
              | [] => .error .misuse
              | value :: later => do
                  if isOption value then .error .misuse
                  readAll (← readPath options name value) later
            else do readAll (← readSwitch options name) later
        | none =>
            if isOption argument then do
              readAll (← readLetters options (argument.toList.drop 1)) later
            else do return (options, ← readTask argument later)

/-- What arguments ask for.  The guest module may also be named by a variable of the environment,
which counts where the option is absent. -/
def ofArguments (moduleVariable : Option String) (arguments : List String) : Request :=
  match readAll {} arguments with
  | .error request => request
  | .ok (options, task) =>
      match options.guest, moduleVariable with
      | none, some path =>
          if path.isEmpty then .misuse else .perform { options with guest := some path } task
      | _, _ => .perform options task

end Request
end SandboxHost
