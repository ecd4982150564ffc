import SandboxHost.CommandLine
import SandboxHost.Dialogue
import SandboxHost.Settings
import SandboxHost.Text.Quoted

/-!
# The application

What each request does, from the files there are and the input that is read to the exit code and the
two texts that are printed.
-/

namespace SandboxHost

open Guest

/-- The settings' file that is read, if it exists, where none is named. -/
def defaultSettingsFile : String := "pankti.yml"

/-- Why a request fails. -/
inductive Failure
  /-- The settings could not be read, from a file that was named or from the default one. -/
  | settings (named : Option String) (error : SettingsError)
  /-- The path given for the guest module is empty. -/
  | emptyGuestPath
  /-- The file to be run is no text. -/
  | notText (file : String)
  | notLoaded (path : String) (fault : Fault)
  | notInstantiated (fault : Fault)
  | notUsable (fault : Fault)
  deriving DecidableEq, Repr

namespace Failure

/-- A fault and the cause behind it. -/
def faultCauses (fault : Fault) : List String :=
  match fault with
  | .unreadable error => [fault.message, error.message]
  | _ => [fault.message]

/-- What failed, and then each cause in turn. -/
def causes : Failure → List String
  | .settings named error =>
      let what := match named with
        | some path => "Failed to load configuration from " ++ Text.quoted path
        | none => "Failed to load configuration"
      what :: error.message :: error.cause?.toList
  | .emptyGuestPath =>
      ["Invalid module path " ++ Text.quoted "", "cannot make an empty path absolute"]
  | .notText file => [Text.quoted file ++ " is not valid UTF-8", FileError.notText.message]
  | .notLoaded path fault =>
      ("Failed to load guest module " ++ Text.quoted path) :: faultCauses fault
  | .notInstantiated fault => "Failed to instantiate guest module" :: faultCauses fault
  | .notUsable fault => "Guest module does not expose the bridge exports" :: faultCauses fault

/-- A cause on lines of its own, the later ones indented like the first. -/
def indented (opening indentation : String) (cause : String) : String :=
  let lines := (cause.toList.splitOn '\n').map String.ofList
  opening ++ String.intercalate ("\n" ++ indentation) lines ++ "\n"

/-- The causes below the first, numbered if there are several. -/
def listed (causes : List String) : String :=
  match causes with
  | [] => ""
  | [cause] => "\nCaused by:\n" ++ indented "    " "    " cause
  | causes =>
      "\nCaused by:\n" ++
        String.join (causes.mapIdx fun index cause =>
          indented (Draft.padded 5 index ++ ": ") "       " cause)

/-- How a failure is printed. -/
def report (failure : Failure) : String :=
  "Error: " ++ (failure.causes.headD "") ++ "\n" ++ listed failure.causes.tail

end Failure

/-- What a request leaves behind. -/
structure Outcome where
  /-- The exit code. -/
  exit : Nat
  /-- What was printed on the standard output. -/
  stdout : String := ""
  /-- What was printed on the error output. -/
  stderr : String := ""
  deriving DecidableEq, Repr

namespace Settings

/-- The settings of a file: of the one that is named, or else of the default one if it exists. -/
def load (tree : FileTree) (named : Option String) : Except Failure Settings :=
  match named with
  | some path => (ofFile tree path).mapError (.settings (some path))
  | none =>
      if tree.exists? defaultSettingsFile then
        (ofFile tree defaultSettingsFile).mapError (.settings none)
      else .ok {}

/-- Override settings by options.  A guest module named there is seen from the working directory. -/
def override (tree : FileTree) (settings : Settings) (guest : Option String) (split : Bool) :
    Except Failure Settings := do
  let settings ← match guest with
    | none => pure settings
    | some path =>
        match Path.absolute? tree.workingDirectory path with
        | some path => pure { settings with guest := path }
        | none => .error .emptyGuestPath
  return if split then { settings with routing := .split } else settings

/-- The settings that hold for some options. -/
def effective (tree : FileTree) (options : Options) : Except Failure Settings := do
  override tree (← load tree options.settings) options.guest options.split

end Settings

/-- Load the program of a file. -/
def loadProgram (tree : FileTree) (path : String) : Except Fault Program := do
  (compile (← (tree.read path).mapError .unreadable)).mapError .notLoaded

namespace Application

/-- Open a session on the guest that settings name.  What its start function wrote is kept in any
case. -/
def openSession (tree : FileTree) (settings : Settings) (host : Host) :
    Except Failure Session × Transcript :=
  let path := settings.guestPath
  match loadProgram tree path with
  | .error fault => (.error (.notLoaded path fault), host.output)
  | .ok program =>
      match Instance.make settings.limits program host with
      | (.error failure, host) =>
          (.error (.notInstantiated (.notLoaded failure)), host.output)
      | (.ok self, host) =>
          ((Session.ofInstance self).mapError .notUsable, host.output)

/-- The outcome of a terminal on which nothing more is printed. -/
def finish (exit : Nat) (terminal : Transcript) : Outcome :=
  ⟨exit, terminal.contents, terminal.stderr⟩

/-- The outcome of a failure. -/
def fail (failure : Failure) (terminal : Transcript) : Outcome :=
  finish 1 (terminal.put ⟨.stderr, failure.report⟩)

/-- The exit code of a run. -/
def exitCode (outcome : Except Fault Unit) : Nat :=
  if outcome.isOk then 0 else 1

/-- The report on a run, as JSON. -/
def renderReport (ok : Bool) (output : Transcript) : String :=
  "\x7b\n  \"ok\": " ++ (if ok then "true" else "false") ++
    ",\n  \"stdout\": " ++ Text.json output.contents ++
    ",\n  \"stderr\": " ++ Text.json output.stderr ++ "\n\x7d\n"

/-- Run a source and show what it writes. -/
def runPlainly (tree : FileTree) (settings : Settings) (clock : Int64) (source : String) :
    Outcome :=
  match openSession tree settings { output := .new settings.routing, clock } with
  | (.error failure, terminal) => fail failure terminal
  | (.ok session, _) =>
      let (outcome, session) := session.run source
      finish (exitCode outcome) session.host.output

/-- Run a source and report on it.  Its streams are always kept apart. -/
def runReported (tree : FileTree) (settings : Settings) (clock : Int64) (source : String) :
    Outcome :=
  match openSession tree settings { output := .new .split, clock } with
  | (.error failure, _) => fail failure (.new .split)
  | (.ok session, _) =>
      let (outcome, session) := session.run source
      { exit := exitCode outcome, stdout := renderReport outcome.isOk session.host.output }

/-- Run a file.  It is read before the guest module is. -/
def runFile (tree : FileTree) (settings : Settings) (clock : Int64) (file : String) (json : Bool) :
    Outcome :=
  match tree.readText file with
  | .error .notText => fail (.notText file) (.new .split)
  | .error _ => { exit := 1, stdout := "Failed to open file : '" ++ file ++ "'\n" }
  | .ok source =>
      if json then runReported tree settings clock source
      else runPlainly tree settings clock source

/-- Edit and run a draft, reading lines from the input. -/
def converse (tree : FileTree) (settings : Settings) (clock : Int64) (input : List UInt8) :
    Outcome :=
  match openSession tree settings { output := .new settings.routing, clock } with
  | (.error failure, terminal) => fail failure terminal
  | (.ok session, _) => finish 0 (Dialogue.drive session input false).session.host.output

/-- Do a task. -/
def perform (tree : FileTree) (clock : Int64) (input : List UInt8) (options : Options) :
    Task → Outcome
  | .sample => { exit := 0, stdout := Draft.sample }
  | .run file json =>
      match Settings.effective tree options with
      | .error failure => fail failure (.new .split)
      | .ok settings => runFile tree settings clock file json
  | .dialogue =>
      match Settings.effective tree options with
      | .error failure => fail failure (.new .split)
      | .ok settings => converse tree settings clock input

/-- The summary of the command line. -/
def usage : String :=
  "Terminal playground for the Pankti guest module\n\n" ++
  "Usage: pankti [OPTIONS] <COMMAND>\n\n" ++
  "Commands:\n" ++
  "  run     Run a source file once\n" ++
  "  repl    Edit and run programs interactively\n" ++
  "  sample  Print the sample program\n" ++
  "  help    Print this message or the help of the given subcommand(s)\n\n" ++
  "Options:\n" ++
  "      --config <CONFIG>  Path to configuration file (pankti.yml is used when present)\n" ++
  "      --module <MODULE>  Guest module artifact, overrides the configuration " ++
  "[env: " ++ guestVariable ++ "=]\n" ++
  "      --split-streams    Show guest stderr on the terminal's stderr instead of merging it\n" ++
  "  -v, --verbose          Enable verbose logging\n" ++
  "  -h, --help             Print help\n" ++
  "  -V, --version          Print version\n"

/-- Answer a request. -/
def answer (tree : FileTree) (clock : Int64) (input : List UInt8) : Request → Outcome
  | .perform options task => perform tree clock input options task
  | .version => { exit := 0, stdout := "pankti 0.1.0\n" }
  | .help => { exit := 0, stdout := usage }
  | .misuse => { exit := 2, stderr := usage }

end Application
end SandboxHost
