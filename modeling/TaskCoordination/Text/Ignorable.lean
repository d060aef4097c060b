import TaskCoordination.Text.CharClass

/-!
# Ignorable characters

The characters with the property Default_Ignorable_Code_Point, as of Unicode 17: those that show nothing where they
are not supported, such as joiners, fillers and variation selectors. Whole ranges are set aside for them, assigned
or not.
-/

namespace TaskCoordination.Text

/-- The characters with the property Default_Ignorable_Code_Point. -/
def ignorable : CharClass :=
  ⟨[(0x00ad, 0x00ad), (0x034f, 0x034f), (0x061c, 0x061c), (0x115f, 0x1160), (0x17b4, 0x17b5), (0x180b, 0x180f),
    (0x200b, 0x200f), (0x202a, 0x202e), (0x2060, 0x206f), (0x3164, 0x3164), (0xfe00, 0xfe0f), (0xfeff, 0xfeff),
    (0xffa0, 0xffa0), (0xfff0, 0xfff8), (0x1bca0, 0x1bca3), (0x1d173, 0x1d17a), (0xe0000, 0xe0fff)],
    by decide⟩

def isIgnorable (c : Char) : Bool :=
  ignorable.contains c

end TaskCoordination.Text
