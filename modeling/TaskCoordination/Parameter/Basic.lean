/-!
# Parameters

The parameters of an invocation: what they carry and which way they flow. An invocation may reserve a slot for its
target object and one for its return value at the end of the list; `realParameters` is what is left.
-/

namespace TaskCoordination

inductive Direction
  | input
  | output
  | both
  deriving DecidableEq

inductive DataType
  | boolean
  | char
  | string
  | byte
  | short
  | int
  | long
  | float
  | double
  | file
  | object
  | psco
  | externalPsco
  | binding
  | collection
  | stream
  | null
  deriving DecidableEq

structure Parameter where
  direction : Direction
  dataType : DataType
  name : Option String
  deriving DecidableEq

namespace DataType

/-- The type as it appears in a signature. -/
def tag : DataType → String
  | boolean => "BOOLEAN_T"
  | char => "CHAR_T"
  | string => "STRING_T"
  | byte => "BYTE_T"
  | short => "SHORT_T"
  | int => "INT_T"
  | long => "LONG_T"
  | float => "FLOAT_T"
  | double => "DOUBLE_T"
  | file => "FILE_T"
  | object => "OBJECT_T"
  | psco => "PSCO_T"
  | externalPsco => "EXTERNAL_PSCO_T"
  | binding => "BINDING_OBJECT_T"
  | collection => "COLLECTION_T"
  | stream => "STREAM_T"
  | null => "NULL_T"

/-- Passed by value. -/
def isPrimitive : DataType → Bool
  | boolean | char | string | byte | short | int | long | float | double => true
  | _ => false

/-- Usable as a return value. -/
def isReturnable : DataType → Bool
  | object | psco | externalPsco => true
  | _ => false

end DataType

namespace Parameter

def unnamed (direction : Direction) (dataType : DataType) : Parameter :=
  ⟨direction, dataType, none⟩

def input (dataType : DataType) : Parameter :=
  unnamed .input dataType

def output (dataType : DataType) : Parameter :=
  unnamed .output dataType

def named (p : Parameter) (name : String) : Parameter :=
  { p with name := some name }

def isWritten (p : Parameter) : Bool :=
  p.direction ≠ .input

/-- A return value is written only and of a returnable type. -/
def isReturn (p : Parameter) : Bool :=
  p.direction = .output && p.dataType.isReturnable

end Parameter

/-- The last parameter of a list is its return value, if it can be one. -/
def hasReturn (ps : List Parameter) : Bool :=
  match ps.getLast? with
  | some p => p.isReturn
  | none => false

/-- How many of `n` parameters are left beside the slots for target and return value. -/
def realCount (n : Nat) (target ret : Bool) : Nat :=
  n - target.toNat - ret.toNat

def realParameters (ps : List Parameter) (target ret : Bool) : List Parameter :=
  ps.take (realCount ps.length target ret)

end TaskCoordination
