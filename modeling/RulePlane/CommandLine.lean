import RulePlane.FanOut
import RulePlane.Number.Literal
import RulePlane.SocketAddress

/-!
# Command lines

The flags with which an operator starts the control plane. Every flag takes one value, as
`--flag value` or `--flag=value`. A value that stands behind its flag is only looked at when the
next flag or the end of the line is reached, so an argument that belongs to nothing is reported
before a bad value in front of it.
-/

namespace RulePlane

/-- How log lines are written. -/
inductive LogFormat where
  | plain
  | json
deriving DecidableEq, Repr

/-- The settings of the control plane, with the values that hold when a flag is not given. -/
structure Options where
  logLevel : String := "strategy=info,warn"
  logFormat : LogFormat := .plain
  adminAddress : SocketAddress := .ipv4 ⟨0, 0, 0, 0⟩ 8080
  transportAddress : SocketAddress := .ipv4 ⟨0, 0, 0, 0⟩ 10246
  discoveryAddress : SocketAddress := .ipv4 ⟨0, 0, 0, 0⟩ 10247
  controlPlaneId : Option String := none
  pushMaxAttempts : Nat := 3
  pushTimeoutMillis : Nat := 3000
  pushWorkers : Nat := 4
  pushQueueCapacity : Nat := 1024
  fanOut : FanOutMode := .failFast
  /-- How the cluster is reached, by the names of the flags that say it. -/
  cluster : List (String × String) := []

/-- The flags. Those that say how the cluster is reached are told apart by their names alone. -/
inductive Flag where
  | logLevel
  | logFormat
  | adminAddress
  | transportAddress
  | discoveryAddress
  | controlPlaneId
  | pushMaxAttempts
  | pushTimeoutMillis
  | pushWorkers
  | pushQueueCapacity
  | fanOut
  | configPath
  | cluster (name : String)
deriving DecidableEq, Repr

/-- Why a command line is refused. -/
inductive CommandLineError where
  /-- An argument is no flag and no value of one. -/
  | unknownArgument (argument : String)
  /-- A flag has no value. -/
  | missingValue (flag : Flag)
  /-- The value of a flag cannot be read. -/
  | unreadableValue (flag : Flag) (value : String)
  /-- A flag is given twice. -/
  | repeatedFlag (flag : Flag)
deriving DecidableEq, Repr

namespace LogFormat

/-- The name of a format. -/
def render : LogFormat → String
  | plain => "plain"
  | json => "json"

/-- The format of a name. -/
def parse? (name : String) : Option LogFormat :=
  if name = "plain" then some plain else if name = "json" then some json else none

end LogFormat

namespace Flag

/-- What starts a flag on the command line. -/
def mark : String := "--"

/-- The name of a flag, without its mark. -/
def name : Flag → String
  | logLevel => "log-level"
  | logFormat => "log-format"
  | adminAddress => "admin-addr"
  | transportAddress => "transport-addr"
  | discoveryAddress => "discovery-addr"
  | controlPlaneId => "control-plane-id"
  | pushMaxAttempts => "push-max-attempts"
  | pushTimeoutMillis => "push-timeout-ms"
  | pushWorkers => "push-workers"
  | pushQueueCapacity => "push-queue-capacity"
  | fanOut => "fanout"
  | configPath => "kubeconfig"
  | cluster name => name

/-- All flags. -/
def all : List Flag :=
  [logLevel, logFormat, adminAddress, transportAddress, discoveryAddress, controlPlaneId,
    pushMaxAttempts, pushTimeoutMillis, pushWorkers, pushQueueCapacity, fanOut, configPath,
    cluster "cluster", cluster "context", cluster "user", cluster "as", cluster "as-group",
    cluster "kube-api-response-headers-timeout"]

/-- The flag of a name. -/
def named? (name : String) : Option Flag := all.find? fun flag => flag.name == name

end Flag

namespace CommandLineError

/-- The report on a refused command line. -/
def message : CommandLineError → String
  | unknownArgument argument => "unexpected argument '" ++ argument ++ "' found"
  | missingValue flag => "a value is required for '--" ++ flag.name ++ "' but none was supplied"
  | unreadableValue flag value => "invalid value '" ++ value ++ "' for '--" ++ flag.name ++ "'"
  | repeatedFlag flag =>
      "the argument '--" ++ flag.name ++ "' cannot be used multiple times"

end CommandLineError

namespace CommandLine

/-- A number of 64 bits without sign: an optional plus, then ASCII digits. -/
def parseUnsigned? (value : String) : Option Nat :=
  let digits :=
    match value.toList with
    | '+' :: rest => rest
    | text => text
  if digits.isEmpty || !digits.all Number.isDigit then none
  else
    let number := Number.digitsValue digits
    if number < 0x10000000000000000 then some number else none

/-- Read the value of a flag into the settings. -/
def read? (options : Options) (flag : Flag) (value : String) : Option Options :=
  match flag with
  | .logLevel => some { options with logLevel := value }
  | .logFormat => (LogFormat.parse? value).map fun read => { options with logFormat := read }
  | .adminAddress =>
      (SocketAddress.parse? value).map fun read => { options with adminAddress := read }
  | .transportAddress =>
      (SocketAddress.parse? value).map fun read => { options with transportAddress := read }
  | .discoveryAddress =>
      (SocketAddress.parse? value).map fun read => { options with discoveryAddress := read }
  | .controlPlaneId => some { options with controlPlaneId := some value }
  | .pushMaxAttempts =>
      (parseUnsigned? value).map fun read => { options with pushMaxAttempts := read }
  | .pushTimeoutMillis =>
      (parseUnsigned? value).map fun read => { options with pushTimeoutMillis := read }
  | .pushWorkers => (parseUnsigned? value).map fun read => { options with pushWorkers := read }
  | .pushQueueCapacity =>
      (parseUnsigned? value).map fun read => { options with pushQueueCapacity := read }
  | .fanOut => (FanOutMode.parse? value).map fun read => { options with fanOut := read }
  | .configPath => some { options with cluster := options.cluster ++ [(flag.name, value)] }
  | .cluster name => some { options with cluster := options.cluster ++ [(name, value)] }

/-- What is known after a part of a command line: the settings and the flags that gave them, and
    the last flag if its value has not been looked at yet. -/
structure Progress where
  options : Options
  given : List Flag
  waiting : Option (Flag × Option String)

/-- Before the first argument. -/
def start : Progress := ⟨{}, [], none⟩

/-- Take the value of a flag into account. An empty path is no value. -/
def give (progress : Progress) (flag : Flag) (value : String) :
    Except CommandLineError Progress :=
  if flag ∈ progress.given then .error (.repeatedFlag flag)
  else if flag = .configPath ∧ value = "" then .error (.missingValue flag)
  else
    match read? progress.options flag value with
    | some options => .ok ⟨options, flag :: progress.given, none⟩
    | none => .error (.unreadableValue flag value)

/-- Look at the value of the last flag. -/
def settle (progress : Progress) : Except CommandLineError Progress :=
  match progress.waiting with
  | none => .ok progress
  | some (flag, none) => .error (.missingValue flag)
  | some (flag, some value) => give progress flag value

/-- Cut a flag from its value at the first equals sign. -/
def cutValue : List Char → List Char × Option (List Char)
  | [] => ([], none)
  | character :: rest =>
      if character = '=' then ([], some rest)
      else
        let (name, value) := cutValue rest
        (character :: name, value)

/-- Take an argument that starts with the mark of flags. -/
def takeFlag (progress : Progress) (argument : String) (text : List Char) :
    Except CommandLineError Progress :=
  let (name, value) := cutValue text
  match Flag.named? (String.ofList name) with
  | none => .error (.unknownArgument argument)
  | some flag => do
      let progress ← settle progress
      match value with
      | some value => give progress flag (String.ofList value)
      | none => .ok { progress with waiting := some (flag, none) }

/-- Take an argument that is no flag: the value of the flag before it, if that still lacks one. -/
def takeValue (progress : Progress) (argument : String) : Except CommandLineError Progress :=
  match progress.waiting with
  | some (flag, none) => .ok { progress with waiting := some (flag, some argument) }
  | _ => .error (.unknownArgument argument)

/-- Take the arguments of a command line one after another. Behind a bare mark of flags there may
    be nothing. -/
def takeAll (progress : Progress) : List String → Except CommandLineError Progress
  | [] => settle progress
  | argument :: rest =>
      match argument.toList with
      | ['-', '-'] =>
          match rest with
          | [] => settle progress
          | surplus :: _ => .error (.unknownArgument surplus)
      | '-' :: '-' :: text =>
          match takeFlag progress argument text with
          | .ok progress => takeAll progress rest
          | .error fault => .error fault
      | '-' :: _ :: _ => .error (.unknownArgument argument)
      | _ =>
          match takeValue progress argument with
          | .ok progress => takeAll progress rest
          | .error fault => .error fault

/-- Read a command line: the arguments behind the program's name. -/
def parse (arguments : List String) : Except CommandLineError Options :=
  match takeAll start arguments with
  | .ok progress => .ok progress.options
  | .error fault => .error fault

end CommandLine

namespace Options

/-- The report on settings with which the control plane does not start. -/
def objection? (options : Options) : Option String :=
  if options.pushMaxAttempts = 0 then some "--push-max-attempts must be at least 1" else none

/-- The settings as flags and values, in the order of the flags. -/
def values (options : Options) : List (Flag × String) :=
  [(.logLevel, options.logLevel), (.logFormat, options.logFormat.render),
    (.adminAddress, options.adminAddress.render),
    (.transportAddress, options.transportAddress.render),
    (.discoveryAddress, options.discoveryAddress.render)] ++
    options.controlPlaneId.toList.map (fun name => (.controlPlaneId, name)) ++
    [(.pushMaxAttempts, toString options.pushMaxAttempts),
      (.pushTimeoutMillis, toString options.pushTimeoutMillis),
      (.pushWorkers, toString options.pushWorkers),
      (.pushQueueCapacity, toString options.pushQueueCapacity),
      (.fanOut, options.fanOut.render)] ++
    options.cluster.map fun entry => (.cluster entry.1, entry.2)

end Options

namespace CommandLine

/-- What a run of the program shows: lines for the reader of its output, a report on what is wrong,
    and the code with which it ends. -/
structure Outcome where
  lines : List String
  complaint : Option String
  exitCode : UInt32

/-- Run the program on a command line. A command line that cannot be read ends it with code 2, and
    settings with which the control plane does not start with code 1. Otherwise the settings are
    shown, one flag a line. -/
def outcome (arguments : List String) : Outcome :=
  match parse arguments with
  | .error fault => ⟨[], some ("error: " ++ fault.message), 2⟩
  | .ok options =>
      match options.objection? with
      | some objection => ⟨[], some ("Error: " ++ objection), 1⟩
      | none =>
          let line (entry : Flag × String) := Flag.mark ++ entry.1.name ++ "=" ++ entry.2
          ⟨options.values.map line, none, 0⟩

end CommandLine

end RulePlane
