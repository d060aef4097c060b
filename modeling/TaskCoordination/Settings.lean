import TaskCoordination.Text.Blank
import TaskCoordination.Text.Numeral
import TaskCoordination.Number

/-!
# Settings

The settings of a coordinator, read from environment variables. A variable that is unset, or that is not text, stands
for its default. The variables are read in the order of `Setting`, and the first bad one is the error.
-/

namespace TaskCoordination

inductive Setting
  | metricsEnabled
  | metricsPort
  | computingUnits
  | snapshotInterval
  | listenerQueue
  deriving DecidableEq

/-- The contents of an environment variable. -/
inductive Variable
  | unset
  | undecodable
  | text (s : String)
  deriving DecidableEq

def Environment : Type :=
  Setting → Variable

structure Settings where
  metricsEnabled : Bool
  metricsPort : UInt16
  computingUnits : UInt32
  snapshotInterval : Nat
  listenerQueue : Nat
  deriving DecidableEq

structure InvalidSetting where
  setting : Setting
  deriving DecidableEq

namespace Setting

def variableName : Setting → String
  | metricsEnabled => "TASKWEAVE_METRICS_ENABLED"
  | metricsPort => "TASKWEAVE_METRICS_PORT"
  | computingUnits => "TASKWEAVE_NODE_COMPUTING_UNITS"
  | snapshotInterval => "TASKWEAVE_SNAPSHOT_INTERVAL_SECS"
  | listenerQueue => "TASKWEAVE_LISTENER_QUEUE"

def requirement : Setting → String
  | metricsEnabled => "must be true, false, 1 or 0"
  | metricsPort => "must be a valid port number"
  | computingUnits => "must be a positive integer"
  | snapshotInterval => "must be a positive number of seconds"
  | listenerQueue => "must be a positive integer"

end Setting

def InvalidSetting.message (e : InvalidSetting) : String :=
  "invalid value for " ++ e.setting.variableName ++ ": " ++ e.setting.requirement

namespace Variable

def text? : Variable → Option String
  | text s => some s
  | _ => none

def read (v : Variable) (setting : Setting) (byDefault : α) (parse : String → Option α) :
    Except InvalidSetting α :=
  match v.text? with
  | none => .ok byDefault
  | some s =>
    match parse s with
    | some a => .ok a
    | none => .error ⟨setting⟩

end Variable

namespace Settings

def defaultPort : UInt16 :=
  19090

def defaultInterval : Nat :=
  30

def defaultQueue : Nat :=
  1024

def readFlag? (s : String) : Option Bool :=
  match (Text.trim s).toLower with
  | "true" | "1" => some true
  | "false" | "0" => some false
  | _ => none

def readPositive? (limit : Nat) (s : String) : Option Nat :=
  (Text.readNumeral? limit s).filter fun n => 0 < n

def readPort? (s : String) : Option UInt16 :=
  (Text.readNumeral? (UInt16.size - 1) s).map UInt16.ofNat

def readUnits? (s : String) : Option UInt32 :=
  (readPositive? word32Max s).map UInt32.ofNat

/-- Reads all settings; `host` is the number of computing units to assume where none is set. -/
def read (env : Environment) (host : UInt32) : Except InvalidSetting Settings := do
  let metricsEnabled ← (env .metricsEnabled).read .metricsEnabled true readFlag?
  let metricsPort ← (env .metricsPort).read .metricsPort defaultPort readPort?
  let computingUnits ← (env .computingUnits).read .computingUnits host readUnits?
  let snapshotInterval ← (env .snapshotInterval).read .snapshotInterval defaultInterval (readPositive? word64Max)
  let listenerQueue ← (env .listenerQueue).read .listenerQueue defaultQueue (readPositive? word64Max)
  return ⟨metricsEnabled, metricsPort, computingUnits, snapshotInterval, listenerQueue⟩

end Settings

end TaskCoordination
