import Colloquy.Text.Alphanumeric
import Colloquy.Text.Marks

/-!
# The direction of writing

Some letters are written from left to right, others from right to left; numbers are of two kinds, marks belong to the
character before them, and the signs between words have no direction of their own. `keepsDirection` says of a label
whether it reads the same wherever it is put.
-/

namespace Colloquy.Text

/-- How a character is written. -/
inductive Direction where
  | leftToRight
  | rightToLeft
  | westernNumber
  | arabicNumber
  | mark
  | neutral
  deriving DecidableEq, Repr

/-- The bidirectional classes R and AL. -/
def rightToLeftRanges : Ranges := [
    (0x5BE, 0x5BE), (0x5C0, 0x5C0), (0x5C3, 0x5C3), (0x5C6, 0x5C6), (0x5D0, 0x5F4), (0x608, 0x608), (0x60B, 0x60B),
    (0x60D, 0x60D), (0x61B, 0x64A), (0x66D, 0x66F), (0x671, 0x6D5), (0x6E5, 0x6E6), (0x6EE, 0x6EF), (0x6FA, 0x710),
    (0x712, 0x72F), (0x74D, 0x7A5), (0x7B1, 0x7EA), (0x7F4, 0x7F5), (0x7FA, 0x7FA), (0x7FE, 0x815), (0x81A, 0x81A),
    (0x824, 0x824), (0x828, 0x828), (0x830, 0x858), (0x85E, 0x88E), (0x8A0, 0x8C9), (0x200F, 0x200F), (0xFB1D, 0xFB1D),
    (0xFB1F, 0xFB28), (0xFB2A, 0xFD3D), (0xFD50, 0xFDC7), (0xFDF0, 0xFDFC), (0xFE70, 0xFEFC), (0x10800, 0x1091B),
    (0x10920, 0x10A00), (0x10A10, 0x10A35), (0x10A40, 0x10AE4), (0x10AEB, 0x10B35), (0x10B40, 0x10D23),
    (0x10E80, 0x10EA9), (0x10EAD, 0x10F45), (0x10F51, 0x10F81), (0x10F86, 0x10FF6), (0x1E800, 0x1E8CF),
    (0x1E900, 0x1E943), (0x1E94B, 0x1EEBB) ]

/-- The bidirectional class EN. -/
def westernNumberRanges : Ranges := [
    (0x30, 0x39), (0xB2, 0xB3), (0xB9, 0xB9), (0x6F0, 0x6F9), (0x2070, 0x2070), (0x2074, 0x2079), (0x2080, 0x2089),
    (0x2488, 0x249B), (0xFF10, 0xFF19), (0x102E1, 0x102FB), (0x1D7CE, 0x1D7FF), (0x1F100, 0x1F10A), (0x1FBF0, 0x1FBF9) ]

/-- The bidirectional class AN. -/
def arabicNumberRanges : Ranges := [
    (0x600, 0x605), (0x660, 0x669), (0x66B, 0x66C), (0x6DD, 0x6DD), (0x890, 0x891), (0x8E2, 0x8E2), (0x10D30, 0x10E7E) ]

/-- The direction of a character. -/
def direction (c : Char) : Direction :=
  if westernNumberRanges.contains c then .westernNumber
  else if arabicNumberRanges.contains c then .arabicNumber
  else if isMark c then .mark
  else if rightToLeftRanges.contains c then .rightToLeft
  else if isAlphanumeric c then .leftToRight
  else .neutral

/-- Whether a text has characters that are written from right to left. -/
def hasRightToLeft (text : List Char) : Bool :=
  text.any fun c => direction c = .rightToLeft || direction c = .arabicNumber

/-- Whether a label begins with a letter, ends, but for marks, in a letter of that direction or a number, and has between
them neither letters of the other direction nor numbers that it does not allow: one from right to left allows numbers
of either kind, not of both, and one from left to right the western ones. -/
def keepsDirection (label : List Char) : Bool :=
  let all := label.map direction
  let last := (all.reverse.dropWhile (· = .mark)).head?
  match all with
  | [] => true
  | .leftToRight :: _ =>
    all.all (fun d => d ≠ .rightToLeft && d ≠ .arabicNumber) && (last = some .leftToRight || last = some .westernNumber)
  | .rightToLeft :: _ =>
    all.all (· ≠ .leftToRight) && !(all.contains .westernNumber && all.contains .arabicNumber) && last ≠ some .neutral
  | _ => false

end Colloquy.Text
