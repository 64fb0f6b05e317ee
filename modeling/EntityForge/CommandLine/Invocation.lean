import EntityForge.CommandLine.FlagGroup
import EntityForge.Decimal.Numeral
import EntityForge.Log

/-!
# Invocations

What the arguments ask for.  They are read from left to right: later values replace earlier ones,
and the flags for help and for the version end the reading.
-/

namespace EntityForge.CommandLine

/-- How the program is run on a model. -/
structure Settings where
  output : Option Text := none
  validateOnly : Bool := false
  dryRun : Bool := false
  document : Bool := false
  nullable : Bool := false
  fileScopedNamespace : Bool := false
  indentSize : Option Int := none
  strict : Bool := false
  failOnWarnings : Bool := false
  /-- How often more talk was asked for. -/
  verbosity : Nat := 0
  quiet : Bool := false
  deriving BEq, DecidableEq, Repr

/-- The least important entries of the log that are shown. -/
def Settings.leastLevel (settings : Settings) : LogLevel :=
  if settings.quiet then .error
  else if settings.verbosity = 0 then .warning
  else .info

/-- A run on a model. -/
structure Invocation where
  model : Text
  settings : Settings
  deriving BEq, DecidableEq, Repr

/-- Why arguments lead to no run. -/
inductive Refusal where
  | help
  | version
  | fault (fault : UsageFault)
  deriving BEq, DecidableEq, Repr

/-- What has been read of the arguments. -/
structure Reading where
  model : Option Text := none
  settings : Settings := {}
  /-- The texts without a meaning. -/
  unrecognized : List Text := []
  deriving BEq, DecidableEq, Repr

namespace Reading

/-- The reading after a text without a meaning. -/
def skip (reading : Reading) (text : Text) : Reading :=
  { reading with unrecognized := reading.unrecognized ++ [text] }

/-- The reading after a switch. -/
def turnOn (reading : Reading) : Switch → Except Refusal Reading
  | .help => .error .help
  | .version => .error .version
  | .validateOnly => .ok { reading with settings.validateOnly := true }
  | .dryRun => .ok { reading with settings.dryRun := true }
  | .document => .ok { reading with settings.document := true }
  | .nullable => .ok { reading with settings.nullable := true }
  | .fileScopedNamespace => .ok { reading with settings.fileScopedNamespace := true }
  | .strict => .ok { reading with settings.strict := true }
  | .failOnWarnings => .ok { reading with settings.failOnWarnings := true }
  | .verbose => .ok { reading with settings.verbosity := reading.settings.verbosity + 1 }
  | .quiet => .ok { reading with settings.quiet := true }

/-- The reading after a setting. -/
def set (reading : Reading) (value : Text) : Setting → Except Refusal Reading
  | .model => .ok { reading with model := some value }
  | .output => .ok { reading with settings.output := some value }
  | .indentSize =>
      match Decimal.wholeNumber 10 value with
      | .ok number => .ok { reading with settings.indentSize := some number }
      | .error _ => .error (.fault (.notWhole .indentSize value))

/-- The reading after some switches. -/
def turnOnAll (reading : Reading) (switches : List Switch) : Except Refusal Reading :=
  switches.foldlM turnOn reading

/-- The run that was asked for, if nothing is missing and everything has a meaning. -/
def finish (reading : Reading) : Except Refusal Invocation :=
  match reading.model with
  | none => .error (.fault .modelMissing)
  | some model =>
      if reading.unrecognized.isEmpty then .ok ⟨model, reading.settings⟩
      else .error (.fault (.unrecognized reading.unrecognized))

/-- Reads the remaining arguments. -/
def readAll (reading : Reading) : List Argument → Except Refusal Invocation
  | [] => reading.finish
  | argument :: rest => do
      match ← (FlagGroup.ofArgument argument).mapError .fault with
      | none => readAll (reading.skip argument.text) rest
      | some group =>
          match group.ending with
          | .nothing => readAll (← reading.turnOnAll group.switches) rest
          | .unknown text => readAll ((← reading.turnOnAll group.switches).skip text) rest
          | .given setting value =>
              readAll (← (← reading.turnOnAll group.switches).set value setting) rest
          | .awaited setting =>
              match rest with
              | .plain value :: rest =>
                  readAll (← (← reading.turnOnAll group.switches).set value setting) rest
              | _ => throw (.fault (.valueMissing setting))

end Reading

/-- Reads the arguments of the command line. -/
def Invocation.read (texts : List Text) : Except Refusal Invocation := do
  let arguments ← (Argument.ofTexts texts).mapError .fault
  Reading.readAll {} arguments

end EntityForge.CommandLine
