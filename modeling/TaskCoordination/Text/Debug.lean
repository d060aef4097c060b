import TaskCoordination.Text.Extender
import TaskCoordination.Text.Ignorable
import TaskCoordination.Text.Printable

/-!
# Debug notation

A text for people who look at a value: records as `Name { field: value, … }`, tuples as `Name(value)`, lists in
square brackets, strings quoted.
-/

namespace TaskCoordination.Text.Debug

private def hexDigits (n : Nat) : String :=
  String.ofList (Nat.toDigits 16 n)

/-- A character that can be seen on its own: it is printable, it is not ignorable, and it does not extend the
character before it, unless it is a voicing mark. -/
def isVisible (c : Char) : Bool :=
  isPrintable c && !isIgnorable c && (!isExtender c || isVoicingMark c)

/-- A quote, a backslash and whatever is not visible are escaped, some by a letter and the rest by the number of the
code point; every other character stands for itself. -/
def escape (c : Char) : String :=
  if c = '\x22' then "\\\x22"
  else if c = '\x5c' then "\\\\"
  else if c = '\n' then "\\n"
  else if c = '\t' then "\\t"
  else if c = '\r' then "\\r"
  else if c = '\x00' then "\\0"
  else if isVisible c then c.toString
  else "\\u\x7b" ++ hexDigits c.toNat ++ "\x7d"

def quote (s : String) : String :=
  "\x22" ++ String.join (s.toList.map escape) ++ "\x22"

def record (name : String) (fields : List (String × String)) : String :=
  name ++ " \x7b " ++ ", ".intercalate (fields.map fun f => f.1 ++ ": " ++ f.2) ++ " \x7d"

def tuple (name : String) (value : String) : String :=
  name ++ "(" ++ value ++ ")"

def list (items : List String) : String :=
  "[" ++ ", ".intercalate items ++ "]"

def option : Option String → String
  | none => "None"
  | some value => tuple "Some" value

def bool (b : Bool) : String :=
  if b then "true" else "false"

end TaskCoordination.Text.Debug
