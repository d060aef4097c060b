/-!
# JSON values

A number is kept as an integer when it is written as one, and as its text when it is written with a point or an
exponent: the formats of this library know integers only. The fields of an object keep their order.

A record can be written in two ways: as an object, with its fields by name in any order and among others, or as
an array of its fields in their order. `record?` gives access to the fields of either form. A tagged record has a
further field, the tag, which says what the others are; in an array the tag comes first (`tagged?`).

A choice among words is written as the word, or as an object with the word as its only field and with nothing for its
value. Nothing is `null`; inside a tagged record the empty object is nothing, too.
-/

namespace TaskCoordination

inductive Json
  | null
  | bool (b : Bool)
  | int (n : Int)
  | decimal (text : String)
  | str (s : String)
  | arr (items : List Json)
  | obj (fields : List (String × Json))
  deriving Inhabited

namespace Json

def nat (n : Nat) : Json :=
  .int n

def option (f : α → Json) : Option α → Json
  | none => .null
  | some a => f a

def list (f : α → Json) (as : List α) : Json :=
  .arr (as.map f)

def bool? : Json → Option Bool
  | .bool b => some b
  | _ => none

def str? : Json → Option String
  | .str s => some s
  | _ => none

/-- A natural number of at most `limit`. -/
def natUpTo? (limit : Nat) : Json → Option Nat
  | .int (.ofNat n) => if n ≤ limit then some n else none
  | _ => none

def uint16? (j : Json) : Option UInt16 :=
  (j.natUpTo? (UInt16.size - 1)).map UInt16.ofNat

def uint32? (j : Json) : Option UInt32 :=
  (j.natUpTo? (UInt32.size - 1)).map UInt32.ofNat

def uint64? (j : Json) : Option UInt64 :=
  (j.natUpTo? (UInt64.size - 1)).map UInt64.ofNat

def list? (f : Json → Option α) : Json → Option (List α)
  | .arr items => items.mapM f
  | _ => none

/-- Where a value stands. -/
inductive Place
  | plain
  | insideTagged
  deriving DecidableEq

def isNothing (place : Place) : Json → Bool
  | .null => true
  | .obj [] => place = .insideTagged
  | _ => false

/-- The word of a choice. -/
def word? (place : Place) : Json → Option String
  | .str s => some s
  | .obj [(s, value)] => if value.isNothing place then some s else none
  | _ => none

/-- One of several choices, each with a word of its own. -/
def choice? (place : Place) (choices : List α) (word : α → String) (j : Json) : Option α :=
  (j.word? place).bind fun s => choices.find? fun a => word a = s

/-- Reads `null` as the absence of a value. -/
def option? (f : Json → Option α) : Json → Option (Option α)
  | .null => some none
  | j => (f j).map some

/-- The field of an object with a given name. -/
def field? (name : String) : Json → Option Json
  | .obj fields => fields.lookup name
  | _ => none

/-- The fields of a record, by name. The array form must hold the first `needed` fields at least and no more
entries than the record has fields. -/
def record? (names : List String) (needed : Nat) : Json → Option (String → Option Json)
  | .obj fields => some fun name => fields.lookup name
  | .arr items =>
    if needed ≤ items.length ∧ items.length ≤ names.length then
      some fun name => items[names.idxOf name]?
    else
      none
  | _ => none

/-- The tag of a tagged record and the record that it is put to. An object keeps its tag as one field more. -/
def tagged? (tag : String) : Json → Option (String × Json)
  | .obj fields => ((fields.lookup tag).bind str?).map fun s => (s, .obj fields)
  | .arr (.str s :: items) => some (s, .arr items)
  | _ => none

/-- The object form of a record allows no field beside the named ones. -/
def hasOnly (names : List String) : Json → Bool
  | .obj fields => fields.all fun f => names.contains f.1
  | _ => true

end Json

end TaskCoordination
