import Relink.Host.Station
import Relink.Pass

/-! The command line: how arguments are read into a request, and how a request is carried out on a machine. A
value that is given on both sides of the command counts as given after it. -/

namespace Relink.Cli

inductive Switch where
  | debug
  | skipGenerate
  | sync
  | keepStatus
  deriving DecidableEq

namespace Switch

/-- The name of a switch, without the dashes. -/
def name : Switch → String
  | debug => "debug"
  | skipGenerate => "skip-generate"
  | sync => "sync"
  | keepStatus => "no-exit-on-error"

def common : List Switch := [debug]

def ofApply : List Switch := [debug, skipGenerate, sync, keepStatus]

end Switch

inductive Misuse where
  | unknownOption (text : String)
  | unknownCommand (text : String)
  | extraArgument (text : String)
  | repeated (option : String)
  | missingValue (option : String)
  | extraValue (option : String)
  | missingCommand
  deriving DecidableEq

def Misuse.message : Misuse → String
  | unknownOption text => "error: unexpected argument '" ++ text ++ "' found"
  | unknownCommand text => "error: unrecognized subcommand '" ++ text ++ "'"
  | extraArgument text => "error: unexpected argument '" ++ text ++ "' found"
  | repeated option => "error: the argument '--" ++ option ++ "' cannot be used multiple times"
  | missingValue option => "error: a value is required for '--" ++ option ++ "' but none was supplied"
  | extraValue option => "error: unexpected value for '--" ++ option ++ "' found; no more were expected"
  | missingCommand => "error: a command is required"

/-- What a command line asks for. -/
inductive Request where
  | help
  | version
  | apply (config : String) (debug : Bool) (options : Options)
  deriving DecidableEq

/-- The settings file that is loaded unless another is named. -/
def defaultConfig : String := "/etc/netapply/netapply.toml"

def applyName : String := "apply"

def helpName : String := "help"

def configName : String := "config"

def versionName : String := "version"

/-- What an argument is by its form. -/
inductive Argument where
  | separator
  | long (name : String) (value : Option String)
  | short (letter : Char)
  | plain (text : String)
  deriving DecidableEq

/-- Reads an argument. What follows an equals sign after two dashes and a name is a value. -/
def Argument.ofText (text : String) : Argument :=
  match text.toList with
  | ['-', '-'] => separator
  | '-' :: '-' :: rest =>
    let value :=
      match rest.dropWhile (· ≠ '=') with
      | [] => none
      | _ :: value => some (String.ofList value)
    long (String.ofList (rest.takeWhile (· ≠ '='))) value
  | '-' :: letter :: _ => short letter
  | _ => plain text

/-- What has been given on one side of the command. -/
structure Given where
  switches : List Switch := []
  config : Option String := none
  deriving DecidableEq

/-- The request that is made by what is given before and after the command. What follows it counts more. -/
def request (before after : Given) : Request :=
  let has (switch : Switch) : Bool := before.switches.contains switch || after.switches.contains switch
  .apply ((after.config <|> before.config).getD defaultConfig) (has .debug)
    ⟨!has .skipGenerate, has .sync, !has .keepStatus⟩

/-- Notes the settings file, which only one may be and which must have a name. -/
def Given.takeConfig (given : Given) (path : String) : Except Misuse Given :=
  if given.config.isSome then .error (.repeated configName)
  else if path.isEmpty then .error (.missingValue configName)
  else .ok { given with config := some path }

def Given.takeSwitch (given : Given) (switch : Switch) : Except Misuse Given :=
  if given.switches.contains switch then .error (.repeated switch.name)
  else .ok { given with switches := given.switches ++ [switch] }

/-- What a request for help may be about: the command, or help itself. -/
def helpOn : List String → Except Misuse Request
  | [] => .ok .help
  | topic :: rest =>
    if topic = applyName || topic = helpName then
      match rest with
      | [] => .ok .help
      | extra :: _ => .error (.unknownCommand extra)
    else .error (.unknownCommand topic)

/-- Reads arguments one after the other. `before` is what stands before the command once it has been read;
`awaiting` says that the last argument wants a value. -/
def read (before : Option Given) (given : Given) (awaiting : Bool) : List String → Except Misuse Request
  | [] =>
    if awaiting then .error (.missingValue configName)
    else
      match before with
      | some before => .ok (request before given)
      | none => .error .missingCommand
  | text :: rest =>
    if awaiting then
      match Argument.ofText text with
      | .plain path => do read before (← given.takeConfig path) false rest
      | _ => .error (.missingValue configName)
    else
      match Argument.ofText text with
      | .separator =>
        match rest, before with
        | extra :: _, _ => .error (.extraArgument extra)
        | [], some before => .ok (request before given)
        | [], none => .error .missingCommand
      | .long name value =>
        let switches := if before.isSome then Switch.ofApply else Switch.common
        let isVersion := name = versionName && before.isNone
        if name = configName then
          match value with
          | some path => do read before (← given.takeConfig path) false rest
          | none => read before given true rest
        else if name = helpName || isVersion then
          if value.isSome then .error (.extraValue name) else .ok (if isVersion then .version else .help)
        else
          match switches.find? (·.name == name) with
          | some switch =>
            if value.isSome then .error (.extraValue name)
            else do read before (← given.takeSwitch switch) false rest
          | none => .error (.unknownOption text)
      | .short letter =>
        if letter = 'h' then .ok .help
        else if letter = 'V' && before.isNone then .ok .version
        else .error (.unknownOption text)
      | .plain text =>
        if before.isSome then .error (.extraArgument text)
        else if text = applyName then read (some given) {} false rest
        else if text = helpName then helpOn rest
        else .error (.unknownCommand text)

def parse (arguments : List String) : Except Misuse Request :=
  read none {} false arguments

def usage : String :=
  "Apply declared network configuration to the running system

Usage: netapply [OPTIONS] <COMMAND>

Commands:
  apply  Generate backend files, rename interfaces and restart the affected backends
  help   Print this message

Options:
      --debug            Enable debug messages
      --config <CONFIG>  Tool configuration file [default: " ++ defaultConfig ++ "]
  -h, --help             Print help
  -V, --version          Print version

Options of apply:
      --skip-generate     Do not run the configuration generator
      --sync              Wait for backend start/stop jobs to finish
      --no-exit-on-error  Report generation failure as a configuration error instead of its own exit status"

def version : String := "netapply 0.1.0"

/-- The exit status after a command line that is not understood. -/
def misuseStatus : Nat := 2

/-- How a run of the program ends: its exit status, what it prints, its messages, and the machine as it leaves
it. -/
structure Conclusion where
  status : Nat
  output : List String
  messages : List String
  machine : Machine

/-- What is told of a pass that came to its end. -/
def messages (debug : Bool) (report : Report) : List String :=
  (if debug then report.devices.map fun device => "found " ++ device else []) ++
    (report.renames.entries.map fun (device, name) => device ++ " renamed to " ++ name) ++
    report.failures.map fun failure =>
      failure.item ++ " (" ++ failure.phase.toText ++ "): " ++ failure.failure.message

def perform (machine : Machine) : Request → Conclusion
  | .help => ⟨0, [usage], [], machine⟩
  | .version => ⟨0, [version], [], machine⟩
  | .apply config debug options =>
    match Settings.load machine.files machine.here config with
    | .error failure => ⟨failure.exitStatus, [], [failure.message], machine⟩
    | .ok settings =>
      match (Pass.begin options).run Station.load ⟨machine, settings⟩ with
      | (.ok report, station) => ⟨0, [], messages debug report, station.machine⟩
      | (.error failure, station) => ⟨failure.exitStatus, [], [failure.message], station.machine⟩

def run (machine : Machine) (arguments : List String) : Conclusion :=
  match parse arguments with
  | .ok request => perform machine request
  | .error misuse => ⟨misuseStatus, [], [misuse.message], machine⟩

end Relink.Cli
