/-!
The arguments of the program, and the variables of the environment that stand in for them. Arguments
are read in order, and the first one that asks for help or for the version, or that is at fault,
ends the reading.
-/

namespace PasteQueue.CommandLine

inductive Setting
  | config | logLevel | assign
  deriving DecidableEq, Repr

namespace Setting

def word : Setting → String
  | config => "config"
  | logLevel => "log-level"
  | assign => "assign"

def placeholder : Setting → String
  | config => "CONFIG"
  | logLevel => "LOG_LEVEL"
  | assign => "BINDING"

def usage (setting : Setting) : String := "--" ++ setting.word ++ " <" ++ setting.placeholder ++ ">"

def ofWord? (word : List Char) : Option Setting :=
  [config, logLevel, assign].find? fun setting => setting.word.toList == word

end Setting

inductive UsageError
  | unexpected (argument : String)
  | missingValue (setting : Setting)
  | repeated (setting : Setting)
  | unwantedValue (option value : String)
  deriving DecidableEq, Repr

def UsageError.message : UsageError → String
  | unexpected argument => "unexpected argument '" ++ argument ++ "' found"
  | missingValue setting =>
    "a value is required for '" ++ setting.usage ++ "' but none was supplied"
  | repeated setting => "the argument '" ++ setting.usage ++ "' cannot be used multiple times"
  | unwantedValue option value =>
    "unexpected value '" ++ value ++ "' for '" ++ option ++ "' found; no more were accepted"

structure Options where
  config : Option String := none
  logLevel : Option String := none
  assign : Option String := none
  deriving DecidableEq, Repr

namespace Options

def get? (options : Options) : Setting → Option String
  | .config => options.config
  | .logLevel => options.logLevel
  | .assign => options.assign

def put (options : Options) (setting : Setting) (value : String) : Options :=
  match setting with
  | .config => { options with config := some value }
  | .logLevel => { options with logLevel := some value }
  | .assign => { options with assign := some value }

/-- An option is given once, and the path of the configuration is not empty. -/
def set (options : Options) (setting : Setting) (value : String) : Except UsageError Options :=
  if setting = .config && value.isEmpty then .error (.missingValue setting)
  else if (options.get? setting).isSome then .error (.repeated setting)
  else .ok (options.put setting value)

/-- A variable of the environment counts where the option is not given. -/
def setDefault (options : Options) (setting : Setting) (value : Option String) :
    Except UsageError Options :=
  match options.get? setting, value with
  | none, some value => options.set setting value
  | _, _ => .ok options

end Options

inductive Request
  | help
  | version
  | run (options : Options)
  deriving DecidableEq, Repr

namespace Request

/-- Whether an argument is an option and so no value. A dash alone is a value. -/
def isOption (argument : String) : Bool :=
  match argument.toList with
  | '-' :: _ :: _ => true
  | _ => false

def ofFlag? (word : List Char) : Option Request :=
  if word = "help".toList then some help
  else if word = "version".toList then some version
  else none

def readFrom (options : Options) : List String → Except UsageError Request
  | [] => .ok (.run options)
  | argument :: rest =>
    match argument.toList with
    | ['-', '-'] =>
      match rest with
      | [] => .ok (.run options)
      | extra :: _ => .error (.unexpected extra)
    | '-' :: '-' :: text =>
      let (word, value) := text.span (· ≠ '=')
      match Setting.ofWord? word, ofFlag? word, value with
      | some setting, _, _ :: value => do
        readFrom (← options.set setting (String.ofList value)) rest
      | some setting, _, [] =>
        match rest with
        | value :: rest => do
          if isOption value then throw (.missingValue setting)
          readFrom (← options.set setting value) rest
        | [] => .error (.missingValue setting)
      | none, some request, [] => .ok request
      | none, some _, _ :: value =>
        .error (.unwantedValue ("--" ++ String.ofList word) (String.ofList value))
      | none, none, _ => .error (.unexpected argument)
    | '-' :: 'h' :: _ => .ok .help
    | '-' :: 'V' :: _ => .ok .version
    | _ => .error (.unexpected argument)

def read (arguments : List String) : Except UsageError Request := readFrom {} arguments

end Request

structure Environment where
  config : Option String := none
  logLevel : Option String := none
  filter : Option String := none
  configHome : Option String := none
  home : Option String := none
  deriving DecidableEq, Repr

namespace Environment

def names : List String :=
  ["CLIPQUEUE_CONFIG", "CLIPQUEUE_LOG", "RUST_LOG", "XDG_CONFIG_HOME", "HOME"]

/-- A variable without a value is not set. -/
def ofVariables (get? : String → Option String) : Environment :=
  { config := get? "CLIPQUEUE_CONFIG"
    logLevel := get? "CLIPQUEUE_LOG"
    filter := get? "RUST_LOG"
    configHome := get? "XDG_CONFIG_HOME"
    home := get? "HOME" }

end Environment

def Options.complete (options : Options) (environment : Environment) :
    Except UsageError Options := do
  let options ← options.setDefault .config environment.config
  options.setDefault .logLevel environment.logLevel

end PasteQueue.CommandLine
