import DomainPolicy.Text.Marks

/-!
# Directions of writing

* A character is written to the right, to the left, or in the direction of what is around it (`Direction.of`). Digits
  are kept apart, since those of Arabic go with its letters. Of characters that are too new for the tables nothing is
  known.
* `Direction.isOrdered` holds of a text that can be read in one direction: every direction in it is known, and nothing
  in it goes to the left, or it begins with a letter that does, no letter goes the other way, it ends with a letter or a
  digit, and its digits are of one kind.
-/

namespace DomainPolicy

inductive Direction where
  | right
  | left
  | arabicDigit
  | digit
  | mark
  | neutral
  | unknown
  deriving DecidableEq, Repr

namespace Direction

/-- Letters that are written to the left. -/
def leftRanges : Ranges :=
  [(0x05D0, 0x05F4), (0x0620, 0x064A), (0x066E, 0x066F), (0x0671, 0x06D5), (0x06E5, 0x06E6), (0x06EE, 0x06EF),
   (0x06FA, 0x0710), (0x0712, 0x072F), (0x074D, 0x07A5), (0x07B1, 0x07EA), (0x07F4, 0x07F5), (0x0800, 0x0815),
   (0x081A, 0x081A), (0x0824, 0x0824), (0x0828, 0x0828), (0x0840, 0x0858), (0x0860, 0x088E), (0x08A0, 0x08C9),
   (0xFE73, 0xFE73), (0x10800, 0x10939), (0x10980, 0x10A00), (0x10A10, 0x10A35), (0x10A60, 0x10AE4),
   (0x10B00, 0x10D23), (0x10E80, 0x10EA9), (0x10EB0, 0x10EB1), (0x10F00, 0x10F45), (0x10F70, 0x10F81),
   (0x10FB0, 0x10FF6), (0x1E800, 0x1E8C4), (0x1E922, 0x1E943), (0x1E94B, 0x1E959)]

def arabicDigitRanges : Ranges :=
  [(0x0660, 0x0669), (0x10D30, 0x10D39)]

def digitRanges : Ranges :=
  [(0x0030, 0x0039), (0x06F0, 0x06F9)]

def neutralRanges : Ranges :=
  [(0x002D, 0x002D), (0x00B7, 0x00B7), (0x02B9, 0x02BA), (0x02C6, 0x02CF), (0x02EC, 0x02EC), (0x0375, 0x0375),
   (0x200C, 0x200D), (0x2E2F, 0x2E2F), (0x30FB, 0x30FB), (0xA67F, 0xA67F), (0xA717, 0xA71F), (0xA788, 0xA788)]

/-- Characters that are too new for the tables. -/
def unknownRanges : Ranges :=
  [(0x088F, 0x088F), (0x0897, 0x0897), (0x0B53, 0x0B54), (0x0C5C, 0x0C5C), (0x0CDC, 0x0CDC), (0x0CF3, 0x0CF3),
   (0x0ECE, 0x0ECE), (0x1ACF, 0x1ADD), (0x1AE0, 0x1AEB), (0x1C8A, 0x1C8A), (0xA7CD, 0xA7CD), (0xA7CF, 0xA7CF),
   (0xA7DB, 0xA7DB), (0x105C0, 0x105F3), (0x10940, 0x10959), (0x10D40, 0x10D4F), (0x10D69, 0x10D6D),
   (0x10D6F, 0x10D85), (0x10EC2, 0x10EC7), (0x10EFA, 0x10EFF), (0x1123F, 0x11241), (0x11380, 0x11389),
   (0x1138B, 0x1138B), (0x1138E, 0x1138E), (0x11390, 0x113B5), (0x113B7, 0x113C0), (0x113C2, 0x113C2),
   (0x113C5, 0x113C5), (0x113C7, 0x113CA), (0x113CC, 0x113D3), (0x113E1, 0x113E2), (0x116D0, 0x116E3),
   (0x11B60, 0x11B67), (0x11BC0, 0x11BE0), (0x11BF0, 0x11BF9), (0x11DB0, 0x11DDB), (0x11DE0, 0x11DE9),
   (0x11F00, 0x11F10), (0x11F12, 0x11F3A), (0x11F3E, 0x11F42), (0x11F50, 0x11F5A), (0x1342F, 0x1342F),
   (0x13440, 0x13455), (0x13460, 0x143FA), (0x16100, 0x16139), (0x16D40, 0x16D6C), (0x16D70, 0x16D79),
   (0x16D80, 0x16D9D), (0x16DA0, 0x16DA9), (0x16EBB, 0x16ED3), (0x16FF2, 0x16FF3), (0x187F8, 0x187FF),
   (0x18CFF, 0x18CFF), (0x18D09, 0x18D1E), (0x18D80, 0x18DF2), (0x18E00, 0x19191), (0x1B132, 0x1B132),
   (0x1B155, 0x1B155), (0x1DF25, 0x1DF2A), (0x1E08F, 0x1E08F), (0x1E4D0, 0x1E4F9), (0x1E5D0, 0x1E5FA),
   (0x1E6C0, 0x1E6DE), (0x1E6E0, 0x1E6F5), (0x1E6FE, 0x1E6FF), (0x2B739, 0x2B73F), (0x2CEA2, 0x2CEAD),
   (0x2EBF0, 0x2EE5D), (0x31350, 0x33479), (0x3D000, 0x3FC3F)]

/-- Marks without room of their own that have a direction all the same. -/
def rightMarks : List Nat := [0x0CBF, 0x0CC6, 0x11A07, 0x11A08, 0x11C3F]

/-- The direction of a character that names may hold. -/
def of (c : Char) : Direction :=
  if unknownRanges.holds c.toNat then unknown
  else if leftRanges.holds c.toNat then left
  else if arabicDigitRanges.holds c.toNat then arabicDigit
  else if digitRanges.holds c.toNat then digit
  else if neutralRanges.holds c.toNat then neutral
  else if Marks.isNonspacing c && !rightMarks.contains c.toNat then mark
  else right

/-- Whether a text can be read in one direction. -/
def isOrdered (cs : List Char) : Bool :=
  let ds := cs.map of
  !ds.contains unknown
    && if ds.any fun d => d = left || d = arabicDigit then
      ds.head? = some left && !ds.contains right && !(ds.contains digit && ds.contains arabicDigit)
        && ((ds.filter (· ≠ mark)).getLast?.any fun d => d = left || d = digit || d = arabicDigit)
    else true

end Direction

end DomainPolicy
