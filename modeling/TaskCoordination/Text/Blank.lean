import TaskCoordination.Text.CharClass

/-!
# Blank text

The white space of Unicode: 25 characters. A text is blank when it holds no other character, and `trim` cuts the
white space off both ends.
-/

namespace TaskCoordination.Text

/-- The characters with the property White_Space. -/
def whiteSpace : CharClass :=
  ⟨[(0x09, 0x0d), (0x20, 0x20), (0x85, 0x85), (0xa0, 0xa0), (0x1680, 0x1680), (0x2000, 0x200a), (0x2028, 0x2029),
    (0x202f, 0x202f), (0x205f, 0x205f), (0x3000, 0x3000)], by decide⟩

def isBlankChar (c : Char) : Bool :=
  whiteSpace.contains c

def isBlank (s : String) : Bool :=
  s.toList.all isBlankChar

def trim (s : String) : String :=
  String.ofList ((s.toList.dropWhile isBlankChar).reverse.dropWhile isBlankChar).reverse

end TaskCoordination.Text
