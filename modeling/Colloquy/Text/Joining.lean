import Colloquy.Text.Marks

/-!
# Letters that join

In some scripts a letter is written together with the one before it or after it. An invisible joiner or non-joiner has a
use only beside such letters, or after the sign that makes two letters one.
-/

namespace Colloquy.Text

/-- The invisible sign that keeps letters apart. -/
def nonJoiner : Char := '\u200C'

/-- The invisible sign that joins letters. -/
def joiner : Char := '\u200D'

/-- The joining types L and D: letters that join the one after them. -/
def joinsNextRanges : Ranges := [
    (0x620, 0x620), (0x626, 0x626), (0x628, 0x628), (0x62A, 0x62E), (0x633, 0x63F), (0x641, 0x647), (0x649, 0x64A),
    (0x66E, 0x66F), (0x678, 0x687), (0x69A, 0x6BF), (0x6C1, 0x6C2), (0x6CC, 0x6CC), (0x6CE, 0x6CE), (0x6D0, 0x6D1),
    (0x6FA, 0x6FC), (0x6FF, 0x6FF), (0x712, 0x714), (0x71A, 0x71D), (0x71F, 0x727), (0x729, 0x729), (0x72B, 0x72B),
    (0x72D, 0x72E), (0x74E, 0x758), (0x75C, 0x76A), (0x76D, 0x770), (0x772, 0x772), (0x775, 0x777), (0x77A, 0x77F),
    (0x7CA, 0x7EA), (0x850, 0x853), (0x855, 0x855), (0x8A0, 0x8A9), (0x8AF, 0x8B0), (0x8B3, 0x8B8), (0x8BA, 0x8C8),
    (0x1807, 0x1807), (0x1820, 0x1878), (0x1887, 0x18A8), (0x18AA, 0x18AA), (0xA840, 0xA872) ]

/-- The joining types R and D: letters that join the one before them. -/
def joinsLastRanges : Ranges := [
    (0x620, 0x620), (0x622, 0x63F), (0x641, 0x64A), (0x66E, 0x66F), (0x671, 0x673), (0x675, 0x6D3), (0x6D5, 0x6D5),
    (0x6EE, 0x6EF), (0x6FA, 0x6FC), (0x6FF, 0x6FF), (0x710, 0x710), (0x712, 0x72F), (0x74D, 0x77F), (0x7CA, 0x7EA),
    (0x850, 0x855), (0x8A0, 0x8AC), (0x8AE, 0x8C8), (0x1807, 0x1807), (0x1820, 0x1878), (0x1887, 0x18A8),
    (0x18AA, 0x18AA), (0xA840, 0xA871) ]

/-- Whether a sign is of use between what is before it, given in reverse, and what is after it. -/
def joinerFits (sign : Char) (before after : List Char) : Bool :=
  before.head?.any (combiningClass · = joinerClass)
    || (sign = nonJoiner
      && (before.dropWhile isMark).head?.any joinsNextRanges.contains
      && (after.dropWhile isMark).head?.any joinsLastRanges.contains)

/-- Whether every joiner and non-joiner of a text is of use. -/
def joinersFit (before : List Char) : List Char → Bool
  | [] => true
  | c :: rest => (!(c = nonJoiner || c = joiner) || joinerFits c before rest) && joinersFit (c :: before) rest

end Colloquy.Text
