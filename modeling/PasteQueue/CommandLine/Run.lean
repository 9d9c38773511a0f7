import PasteQueue.CommandLine.Arguments
import PasteQueue.Config.File
import PasteQueue.Config.Hotkeys
import PasteQueue.Log.Filter

/-!
A run of the program: from its arguments and environment to a configuration, and from there to what
is logged and how the run ends. There is no input hook here, so that no hotkey can be captured and
none is active.
-/

namespace PasteQueue.CommandLine

open Log (Record)

def target : String := "clipqueue"

def versionText : String := "clipqueue 0.1.0"

def helpText : String := "\n".intercalate [
  "Clipboard history, paste queue and hotkey macros",
  "",
  "Usage: clipqueue [OPTIONS]",
  "",
  "Options:",
  "      --config <CONFIG>        Path to the TOML config file",
  "      --log-level <LOG_LEVEL>  Log filter such as debug or clipqueue_host=trace",
  "      --assign <BINDING>       Record the next input as the hotkey for BINDING and exit",
  "  -h, --help                   Print help",
  "  -V, --version                Print version"]

/-! ### Failures -/

inductive Failure
  | location (error : Config.Error)
  | load (path : String)
  | derive (error : Config.Error)
  | validate (error : Config.Error)
  | capture
  deriving DecidableEq, Repr

namespace Failure

def message : Failure → String
  | location _ => "failed to locate config directory"
  | load path => "failed to load config from " ++ path
  | derive _ => "failed to derive hotkey signatures"
  | validate _ => "invalid configuration"
  | capture => "hotkey capture needs the global input hook, which this platform lacks"

def numbered : List String → List String
  | [] => []
  | [text] => [text]
  | texts => texts.zipIdx.map fun entry => Text.decimal entry.2 ++ ": " ++ entry.1

def causes : Failure → List String
  | location error | derive error | validate error => numbered error.chain
  | load _ | capture => []

end Failure

/-! ### Runs -/

/-- How a run ends, with its records. A run that serves goes on until it is interrupted; one that
breaks off or is killed gives no reason. -/
inductive Outcome
  | refused (error : UsageError)
  | told (text : String)
  | failed (failure : Failure) (records : List Record)
  | brokenOff (records : List Record)
  | killed (records : List Record)
  | served (running stopping : List Record)
  deriving DecidableEq, Repr

namespace Outcome

/-- A run that is killed has no exit code. -/
def exitCode? : Outcome → Option UInt8
  | refused _ => some 2
  | failed .. => some 1
  | brokenOff _ => some 101
  | killed _ => none
  | told _ | served .. => some 0

def records : Outcome → List Record
  | refused _ | told _ => []
  | failed _ records | brokenOff records | killed records => records
  | served running stopping => running ++ stopping

def failure? : Outcome → Option Failure
  | failed failure _ => some failure
  | _ => none

def filtered (filter : Log.Filter) : Outcome → Outcome
  | failed failure records => failed failure (filter.records records)
  | brokenOff records => brokenOff (filter.records records)
  | killed records => killed (filter.records records)
  | served running stopping => served (filter.records running) (filter.records stopping)
  | outcome => outcome

end Outcome

/-- A run that has got as far as its configuration file. -/
structure Plan where
  path : String
  options : Options
  filter : Option String
  deriving DecidableEq, Repr

def configPath (options : Options) (environment : Environment) : Except Config.Error String :=
  match options.config with
  | some path => .ok path
  | none => Config.path? environment.configHome environment.home

/-- What is to be run, if the arguments do not end the run at once. -/
def plan (environment : Environment) (arguments : List String) : Except Outcome Plan :=
  match Request.read arguments with
  | .error error => .error (.refused error)
  | .ok .help => .error (.told helpText)
  | .ok .version => .error (.told versionText)
  | .ok (.run options) =>
    match options.complete environment with
    | .error error => .error (.refused error)
    | .ok options =>
      match configPath options environment with
      | .error error => .error (.failed (.location error) [])
      | .ok path => .ok ⟨path, options, environment.filter⟩

namespace Plan

/-- The option goes before the level of the configuration, and the environment before both. -/
def logFilter? (plan : Plan) (config : Config) : Option Log.Filter :=
  Log.Filter.choose? plan.filter (plan.options.logLevel.getD config.app.logLevel)

def startRecord (plan : Plan) : Record :=
  ⟨.info, target, "ClipQueue starting", [("path", .plain plan.path)]⟩

def skippedRecord (skipped : String × ReadError) : Record :=
  ⟨.warn, target, "hotkey not installed",
    [("id", .plain skipped.1), ("error", .plain skipped.2.message)]⟩

/-- What is logged until the controller is made. -/
def controllerRecords (config : Config) : List Record :=
  [⟨.warn, target,
      "no system clipboard backend on this platform; using an in-memory clipboard", []⟩] ++
    config.orderRecords ++ [Controller.initRecord config.controllerSettings]

def readyRecords (config : Config) : List Record :=
  let bindings := config.bindings
  (if config.features.clipboard then []
      else [⟨.info, target, "clipboard watching disabled", []⟩]) ++
    bindings.installRecords {} ++ bindings.report.skipped.map skippedRecord ++
    [⟨.warn, target, "no global input hook on this platform; hotkeys are inactive", []⟩,
      ⟨.info, target, "ClipQueue ready.  Press Ctrl-C to exit.", []⟩]

def stopRecords (config : Config) : List Record :=
  [⟨.info, target, "shutdown signal received", []⟩] ++
    (if config.features.clipboard then [Watcher.exitRecord] else []) ++
    [⟨.info, target, "ClipQueue stopped", []⟩]

/-- How it goes with a configuration: missing signatures are derived, the macros are checked, and
then a hotkey is assigned or the program serves, if there is room for what it is to remember. -/
def serve (plan : Plan) (config : Config) : Outcome :=
  let started := plan.startRecord :: config.ensureRecords
  match config.ensureSignatures with
  | (some error, _) => .failed (.derive error) started
  | (none, config) =>
    match config.validate with
    | some error => .failed (.validate error) started
    | none =>
      if plan.options.assign.isSome then .failed .capture started
      else
        let records := started ++ controllerRecords config
        match config.controllerSettings.queue.shortage? with
        | none => .served (records ++ readyRecords config) (stopRecords config)
        | some .impossible => .brokenOff records
        | some .memory => .killed records

def outcome (plan : Plan) (found : Config.Found) : Outcome :=
  match Config.load found with
  | .error _ => .failed (.load plan.path) []
  | .ok config =>
    match plan.logFilter? config with
    | some filter => (plan.serve config).filtered filter
    | none => .brokenOff []

end Plan

/-- A whole run, given what is found at a path. -/
def run (find : String → Config.Found) (environment : Environment) (arguments : List String) :
    Outcome :=
  match plan environment arguments with
  | .error outcome => outcome
  | .ok plan => plan.outcome (find plan.path)

end PasteQueue.CommandLine
