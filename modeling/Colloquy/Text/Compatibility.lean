import Colloquy.Text.Casing
import Colloquy.Text.Marks
import Colloquy.Text.Unprintable

/-!
# What characters stand for in names

Names are compared without regard to case, width and style of letters: each character stands for a text of small letters
in their plain form. Some characters stand for nothing, and some have no place in a name.
-/

namespace Colloquy.Text

/-- Characters in a row: every `stride`-th code point from `first` to `last` stands for one that is `step` further on
from `target` each time. -/
structure FoldRun where
  first : Nat
  last : Nat
  stride : Nat
  target : Nat
  step : Nat
  deriving DecidableEq, Repr

/-- Runs of characters that stand for one other each. -/
def foldRuns : List FoldRun := [
    ⟨0x13A0, 0x13F5, 1, 0x13A0, 1⟩, ⟨0x13F8, 0x13FD, 1, 0x13F0, 1⟩, ⟨0x1D33, 0x1D3A, 1, 0x67, 1⟩,
    ⟨0x1F71, 0x1F77, 2, 0x3AC, 1⟩, ⟨0x2000, 0x200A, 1, 0x20, 0⟩, ⟨0x2074, 0x2079, 1, 0x34, 1⟩,
    ⟨0x2080, 0x2089, 1, 0x30, 1⟩, ⟨0x2096, 0x2099, 1, 0x6B, 1⟩, ⟨0x2135, 0x2138, 1, 0x5D0, 1⟩,
    ⟨0x2460, 0x2468, 1, 0x31, 1⟩, ⟨0x24B6, 0x24CF, 1, 0x61, 1⟩, ⟨0x24D0, 0x24E9, 1, 0x61, 1⟩,
    ⟨0x313A, 0x313F, 1, 0x11B0, 1⟩, ⟨0x3145, 0x314E, 1, 0x1109, 1⟩, ⟨0x314F, 0x3163, 1, 0x1161, 1⟩,
    ⟨0x3179, 0x317C, 1, 0x112C, 1⟩, ⟨0x326A, 0x326D, 1, 0x110F, 1⟩, ⟨0x32D0, 0x32D4, 1, 0x30A2, 2⟩,
    ⟨0x32D5, 0x32E0, 1, 0x30AB, 2⟩, ⟨0x32E1, 0x32E4, 1, 0x30C4, 2⟩, ⟨0x32E5, 0x32E9, 1, 0x30CB, 1⟩,
    ⟨0x32EE, 0x32F2, 1, 0x30DE, 1⟩, ⟨0x32F6, 0x32FA, 1, 0x30E9, 1⟩, ⟨0x32FB, 0x32FE, 1, 0x30EF, 1⟩,
    ⟨0xAB70, 0xABBF, 1, 0x13A0, 1⟩, ⟨0xFB52, 0xFB55, 1, 0x67B, 0⟩, ⟨0xFB56, 0xFB59, 1, 0x67E, 0⟩,
    ⟨0xFB5A, 0xFB5D, 1, 0x680, 0⟩, ⟨0xFB5E, 0xFB61, 1, 0x67A, 0⟩, ⟨0xFB62, 0xFB65, 1, 0x67F, 0⟩,
    ⟨0xFB66, 0xFB69, 1, 0x679, 0⟩, ⟨0xFB6A, 0xFB6D, 1, 0x6A4, 0⟩, ⟨0xFB6E, 0xFB71, 1, 0x6A6, 0⟩,
    ⟨0xFB72, 0xFB75, 1, 0x684, 0⟩, ⟨0xFB76, 0xFB79, 1, 0x683, 0⟩, ⟨0xFB7A, 0xFB7D, 1, 0x686, 0⟩,
    ⟨0xFB7E, 0xFB81, 1, 0x687, 0⟩, ⟨0xFB8E, 0xFB91, 1, 0x6A9, 0⟩, ⟨0xFB92, 0xFB95, 1, 0x6AF, 0⟩,
    ⟨0xFB96, 0xFB99, 1, 0x6B3, 0⟩, ⟨0xFB9A, 0xFB9D, 1, 0x6B1, 0⟩, ⟨0xFBA0, 0xFBA3, 1, 0x6BB, 0⟩,
    ⟨0xFBA6, 0xFBA9, 1, 0x6C1, 0⟩, ⟨0xFBAA, 0xFBAD, 1, 0x6BE, 0⟩, ⟨0xFBD3, 0xFBD6, 1, 0x6AD, 0⟩,
    ⟨0xFBE4, 0xFBE7, 1, 0x6D0, 0⟩, ⟨0xFBFC, 0xFBFF, 1, 0x6CC, 0⟩, ⟨0xFE41, 0xFE44, 1, 0x300C, 1⟩,
    ⟨0xFE8F, 0xFE92, 1, 0x628, 0⟩, ⟨0xFE95, 0xFE98, 1, 0x62A, 0⟩, ⟨0xFE99, 0xFE9C, 1, 0x62B, 0⟩,
    ⟨0xFE9D, 0xFEA0, 1, 0x62C, 0⟩, ⟨0xFEA1, 0xFEA4, 1, 0x62D, 0⟩, ⟨0xFEA5, 0xFEA8, 1, 0x62E, 0⟩,
    ⟨0xFEB1, 0xFEB4, 1, 0x633, 0⟩, ⟨0xFEB5, 0xFEB8, 1, 0x634, 0⟩, ⟨0xFEB9, 0xFEBC, 1, 0x635, 0⟩,
    ⟨0xFEBD, 0xFEC0, 1, 0x636, 0⟩, ⟨0xFEC1, 0xFEC4, 1, 0x637, 0⟩, ⟨0xFEC5, 0xFEC8, 1, 0x638, 0⟩,
    ⟨0xFEC9, 0xFECC, 1, 0x639, 0⟩, ⟨0xFECD, 0xFED0, 1, 0x63A, 0⟩, ⟨0xFED1, 0xFED4, 1, 0x641, 0⟩,
    ⟨0xFED5, 0xFED8, 1, 0x642, 0⟩, ⟨0xFED9, 0xFEDC, 1, 0x643, 0⟩, ⟨0xFEDD, 0xFEE0, 1, 0x644, 0⟩,
    ⟨0xFEE1, 0xFEE4, 1, 0x645, 0⟩, ⟨0xFEE5, 0xFEE8, 1, 0x646, 0⟩, ⟨0xFEE9, 0xFEEC, 1, 0x647, 0⟩,
    ⟨0xFEF1, 0xFEF4, 1, 0x64A, 0⟩, ⟨0xFF01, 0xFF20, 1, 0x21, 1⟩, ⟨0xFF21, 0xFF3A, 1, 0x61, 1⟩,
    ⟨0xFF3B, 0xFF5E, 1, 0x5B, 1⟩, ⟨0xFF67, 0xFF6B, 1, 0x30A1, 2⟩, ⟨0xFF71, 0xFF75, 1, 0x30A2, 2⟩,
    ⟨0xFF76, 0xFF81, 1, 0x30AB, 2⟩, ⟨0xFF82, 0xFF85, 1, 0x30C4, 2⟩, ⟨0xFF86, 0xFF8A, 1, 0x30CB, 1⟩,
    ⟨0xFF8F, 0xFF93, 1, 0x30DE, 1⟩, ⟨0xFF97, 0xFF9B, 1, 0x30E9, 1⟩, ⟨0xFFAA, 0xFFAF, 1, 0x11B0, 1⟩,
    ⟨0xFFB5, 0xFFBE, 1, 0x1109, 1⟩, ⟨0xFFC2, 0xFFC7, 1, 0x1161, 1⟩, ⟨0xFFCA, 0xFFCF, 1, 0x1167, 1⟩,
    ⟨0xFFD2, 0xFFD7, 1, 0x116D, 1⟩, ⟨0xFFE9, 0xFFEC, 1, 0x2190, 1⟩, ⟨0x1D400, 0x1D419, 1, 0x61, 1⟩,
    ⟨0x1D41A, 0x1D433, 1, 0x61, 1⟩, ⟨0x1D434, 0x1D44D, 1, 0x61, 1⟩, ⟨0x1D44E, 0x1D454, 1, 0x61, 1⟩,
    ⟨0x1D456, 0x1D467, 1, 0x69, 1⟩, ⟨0x1D468, 0x1D481, 1, 0x61, 1⟩, ⟨0x1D482, 0x1D49B, 1, 0x61, 1⟩,
    ⟨0x1D4A9, 0x1D4AC, 1, 0x6E, 1⟩, ⟨0x1D4AE, 0x1D4B5, 1, 0x73, 1⟩, ⟨0x1D4B6, 0x1D4B9, 1, 0x61, 1⟩,
    ⟨0x1D4BE, 0x1D4C3, 1, 0x69, 1⟩, ⟨0x1D4C5, 0x1D4CF, 1, 0x70, 1⟩, ⟨0x1D4D0, 0x1D4E9, 1, 0x61, 1⟩,
    ⟨0x1D4EA, 0x1D503, 1, 0x61, 1⟩, ⟨0x1D507, 0x1D50A, 1, 0x64, 1⟩, ⟨0x1D50D, 0x1D514, 1, 0x6A, 1⟩,
    ⟨0x1D516, 0x1D51C, 1, 0x73, 1⟩, ⟨0x1D51E, 0x1D537, 1, 0x61, 1⟩, ⟨0x1D53B, 0x1D53E, 1, 0x64, 1⟩,
    ⟨0x1D540, 0x1D544, 1, 0x69, 1⟩, ⟨0x1D54A, 0x1D550, 1, 0x73, 1⟩, ⟨0x1D552, 0x1D56B, 1, 0x61, 1⟩,
    ⟨0x1D56C, 0x1D585, 1, 0x61, 1⟩, ⟨0x1D586, 0x1D59F, 1, 0x61, 1⟩, ⟨0x1D5A0, 0x1D5B9, 1, 0x61, 1⟩,
    ⟨0x1D5BA, 0x1D5D3, 1, 0x61, 1⟩, ⟨0x1D5D4, 0x1D5ED, 1, 0x61, 1⟩, ⟨0x1D5EE, 0x1D607, 1, 0x61, 1⟩,
    ⟨0x1D608, 0x1D621, 1, 0x61, 1⟩, ⟨0x1D622, 0x1D63B, 1, 0x61, 1⟩, ⟨0x1D63C, 0x1D655, 1, 0x61, 1⟩,
    ⟨0x1D656, 0x1D66F, 1, 0x61, 1⟩, ⟨0x1D670, 0x1D689, 1, 0x61, 1⟩, ⟨0x1D68A, 0x1D6A3, 1, 0x61, 1⟩,
    ⟨0x1D6A8, 0x1D6B8, 1, 0x3B1, 1⟩, ⟨0x1D6BA, 0x1D6C0, 1, 0x3C3, 1⟩, ⟨0x1D6C2, 0x1D6D2, 1, 0x3B1, 1⟩,
    ⟨0x1D6D5, 0x1D6DA, 1, 0x3C4, 1⟩, ⟨0x1D6E2, 0x1D6F2, 1, 0x3B1, 1⟩, ⟨0x1D6F4, 0x1D6FA, 1, 0x3C3, 1⟩,
    ⟨0x1D6FC, 0x1D70C, 1, 0x3B1, 1⟩, ⟨0x1D70F, 0x1D714, 1, 0x3C4, 1⟩, ⟨0x1D71C, 0x1D72C, 1, 0x3B1, 1⟩,
    ⟨0x1D72E, 0x1D734, 1, 0x3C3, 1⟩, ⟨0x1D736, 0x1D746, 1, 0x3B1, 1⟩, ⟨0x1D749, 0x1D74E, 1, 0x3C4, 1⟩,
    ⟨0x1D756, 0x1D766, 1, 0x3B1, 1⟩, ⟨0x1D768, 0x1D76E, 1, 0x3C3, 1⟩, ⟨0x1D770, 0x1D780, 1, 0x3B1, 1⟩,
    ⟨0x1D783, 0x1D788, 1, 0x3C4, 1⟩, ⟨0x1D790, 0x1D7A0, 1, 0x3B1, 1⟩, ⟨0x1D7A2, 0x1D7A8, 1, 0x3C3, 1⟩,
    ⟨0x1D7AA, 0x1D7BA, 1, 0x3B1, 1⟩, ⟨0x1D7BD, 0x1D7C2, 1, 0x3C4, 1⟩, ⟨0x1D7CE, 0x1D7D7, 1, 0x30, 1⟩,
    ⟨0x1D7D8, 0x1D7E1, 1, 0x30, 1⟩, ⟨0x1D7E2, 0x1D7EB, 1, 0x30, 1⟩, ⟨0x1D7EC, 0x1D7F5, 1, 0x30, 1⟩,
    ⟨0x1D7F6, 0x1D7FF, 1, 0x30, 1⟩, ⟨0x1E030, 0x1E038, 1, 0x430, 1⟩, ⟨0x1E03C, 0x1E046, 1, 0x43E, 1⟩,
    ⟨0x1E051, 0x1E059, 1, 0x430, 1⟩, ⟨0x1E060, 0x1E064, 1, 0x444, 1⟩, ⟨0x1EE0A, 0x1EE0D, 1, 0x643, 1⟩,
    ⟨0x1EE2A, 0x1EE2D, 1, 0x643, 1⟩, ⟨0x1F130, 0x1F149, 1, 0x61, 1⟩, ⟨0x1FBF0, 0x1FBF9, 1, 0x30, 1⟩ ]

/-- Rows of characters: the first code point, and what it and those after it stand for, with spaces between. -/
def foldRows : List (Nat × String) := [
    (0xAA, "a"), (0xB2, "2 3"), (0xB5, "μ"), (0xB9, "1 o"), (0xBC, "1⁄4 1⁄2 3⁄4"), (0x130, "i\u0307"),
    (0x132, "ij ij"), (0x13F, "l· l·"), (0x149, "ʼn"), (0x17F, "s"), (0x1C4, "dž dž dž lj lj lj nj nj nj"),
    (0x1F1, "dz dz dz"), (0x2B0, "h ɦ j r ɹ ɻ ʁ w y"), (0x2E0, "ɣ l s x ʕ"), (0x340, "\u0300 \u0301"),
    (0x343, "\u0313 \u0308\u0301 ι"), (0x374, "ʹ"), (0x37E, ";"), (0x387, "·"), (0x3D0, "β θ υ ύ ϋ φ π"),
    (0x3F0, "κ ρ σ"), (0x3F5, "ε"), (0x3F9, "σ"), (0x587, "եւ"),
    (0x675, "\u0627\u0674 \u0648\u0674 \u06C7\u0674 \u064A\u0674"),
    (0x958, "क\u093C ख\u093C ग\u093C ज\u093C ड\u093C ढ\u093C फ\u093C य\u093C"), (0x9DC, "ড\u09BC ঢ\u09BC"),
    (0x9DF, "য\u09BC"), (0xA33, "ਲ\u0A3C"), (0xA36, "ਸ\u0A3C"), (0xA59, "ਖ\u0A3C ਗ\u0A3C ਜ\u0A3C"),
    (0xA5E, "ਫ\u0A3C"), (0xB5C, "ଡ\u0B3C ଢ\u0B3C"), (0xE33, "\u0E4Dา"), (0xEB3, "\u0ECDາ"), (0xEDC, "ຫນ ຫມ"),
    (0xF0C, "་"), (0xF43, "ག\u0FB7"), (0xF4D, "ཌ\u0FB7"), (0xF52, "ད\u0FB7"), (0xF57, "བ\u0FB7"),
    (0xF5C, "ཛ\u0FB7"), (0xF69, "ཀ\u0FB5"), (0xF73, "\u0F71\u0F72"),
    (0xF75, "\u0F71\u0F74 \u0FB2\u0F80 \u0FB2\u0F71\u0F80 \u0FB3\u0F80 \u0FB3\u0F71\u0F80"),
    (0xF81, "\u0F71\u0F80"), (0xF93, "\u0F92\u0FB7"), (0xF9D, "\u0F9C\u0FB7"), (0xFA2, "\u0FA1\u0FB7"),
    (0xFA7, "\u0FA6\u0FB7"), (0xFAC, "\u0FAB\u0FB7"), (0xFB9, "\u0F90\u0FB5"), (0x10FC, "ნ"),
    (0x1C80, "в д о с т т ъ ѣ ꙋ"), (0x1D2C, "a æ b"), (0x1D30, "d e ǝ"),
    (0x1D3C, "o ȣ p r t u w a ɐ ɑ ᴂ b d e ə ɛ ɜ g"),
    (0x1D4F, "k m ŋ o ɔ ᴖ ᴗ p t u ᴝ ɯ v ᴥ β γ δ φ χ i r u v β γ ρ φ χ"), (0x1D78, "н"),
    (0x1D9B, "ɒ c ɕ ð ɜ f ɟ ɡ ɥ ɨ ɩ ɪ ᵻ ʝ ɭ ᶅ ʟ ɱ ɰ ɲ ɳ ɴ ɵ ɸ ʂ ʃ ƫ ʉ ʊ ᴜ ʋ ʌ z ʐ ʑ ʒ θ"), (0x1E9A, "aʾ ṡ"),
    (0x1F79, "ό"), (0x1F7B, "ύ"), (0x1F7D, "ώ"),
    (0x1F80, "ἀι ἁι ἂι ἃι ἄι ἅι ἆι ἇι ἀι ἁι ἂι ἃι ἄι ἅι ἆι ἇι ἠι ἡι ἢι ἣι ἤι ἥι ἦι ἧι ἠι ἡι ἢι ἣι"),
    (0x1F9C, "ἤι ἥι ἦι ἧι ὠι ὡι ὢι ὣι ὤι ὥι ὦι ὧι ὠι ὡι ὢι ὣι ὤι ὥι ὦι ὧι"), (0x1FB2, "ὰι αι άι"), (0x1FB7, "ᾶι"),
    (0x1FBB, "ά αι"), (0x1FBE, "ι"), (0x1FC2, "ὴι ηι ήι"), (0x1FC7, "ῆι"), (0x1FC9, "έ"), (0x1FCB, "ή ηι"),
    (0x1FD3, "ΐ"), (0x1FDB, "ί"), (0x1FE3, "ΰ"), (0x1FEB, "ύ"), (0x1FEF, "\x60"), (0x1FF2, "ὼι ωι ώι"),
    (0x1FF7, "ῶι"), (0x1FF9, "ό"), (0x1FFB, "ώ ωι"), (0x2011, "‐"), (0x2024, ". .. ..."), (0x2033, "′′ ′′′"),
    (0x2036, "‵‵ ‵‵‵"), (0x203C, "!!"), (0x2047, "?? ?! !?"), (0x2057, "′′′′"), (0x2070, "0 i"),
    (0x207A, "+ − = ( ) n"), (0x208A, "+ − = ( )"), (0x2090, "a e o x ə h"), (0x209A, "p s t"), (0x20A8, "rs"),
    (0x2100, "a/c a/s c °c"), (0x2105, "c/o c/u ɛ"), (0x2109, "°f g h h h h ħ i i l l"), (0x2115, "n no"),
    (0x2119, "p q r r r"), (0x2120, "sm tel tm"), (0x2124, "z"), (0x2128, "z"), (0x212C, "b c"), (0x212F, "e e f"),
    (0x2133, "m o"), (0x2139, "i"), (0x213B, "fax π γ γ π ∑"), (0x2145, "d d e i j"),
    (0x2150, "1⁄7 1⁄9 1⁄10 1⁄3 2⁄3 1⁄5 2⁄5 3⁄5 4⁄5 1⁄6 5⁄6 1⁄8 3⁄8 5⁄8 7⁄8 1⁄ i ii iii iv v vi"),
    (0x2166, "vii viii ix x xi xii l c d m i ii iii iv v vi vii viii ix x xi xii l c d m"), (0x2189, "0⁄3"),
    (0x222C, "∫∫ ∫∫∫"), (0x222F, "∮∮ ∮∮∮"), (0x2329, "〈 〉"),
    (0x2469, "10 11 12 13 14 15 16 17 18 19 20 (1) (2) (3) (4) (5) (6) (7) (8) (9) (10) (11) (12)"),
    (0x2480, "(13) (14) (15) (16) (17) (18) (19) (20) 1. 2. 3. 4. 5. 6. 7. 8. 9. 10. 11. 12. 13."),
    (0x2495, "14. 15. 16. 17. 18. 19. 20. (a) (b) (c) (d) (e) (f) (g) (h) (i) (j) (k) (l) (m) (n)"),
    (0x24AA, "(o) (p) (q) (r) (s) (t) (u) (v) (w) (x) (y) (z)"), (0x24EA, "0"), (0x2A0C, "∫∫∫∫"),
    (0x2A74, "::= == ==="), (0x2ADC, "⫝\u0338"), (0x2C7C, "j v"), (0x2D6F, "ⵡ"), (0x2E9F, "母"), (0x2EF3, "龟"),
    (0x2F00, "一 丨 丶 丿 乙 亅 二 亠 人 儿 入 八 冂 冖 冫 几 凵 刀 力 勹 匕 匚 匸 十 卜 卩 厂 厶 又 口 囗 土 士 夂 夊 夕 大 女 子 宀 寸 小"),
    (0x2F2A, "尢 尸 屮 山 巛 工 己 巾 干 幺 广 廴 廾 弋 弓 彐 彡 彳 心 戈 戶 手 支 攴 文 斗 斤 方 无 日 曰 月 木 欠 止 歹 殳 毋 比 毛 氏 气"),
    (0x2F54, "水 火 爪 父 爻 爿 片 牙 牛 犬 玄 玉 瓜 瓦 甘 生 用 田 疋 疒 癶 白 皮 皿 目 矛 矢 石 示 禸 禾 穴 立 竹 米 糸 缶 网 羊 羽 老 而"),
    (0x2F7E, "耒 耳 聿 肉 臣 自 至 臼 舌 舛 舟 艮 色 艸 虍 虫 血 行 衣 襾 見 角 言 谷 豆 豕 豸 貝 赤 走 足 身 車 辛 辰 辵 邑 酉 釆 里 金 長"),
    (0x2FA8, "門 阜 隶 隹 雨 靑 非 面 革 韋 韭 音 頁 風 飛 食 首 香 馬 骨 高 髟 鬥 鬯 鬲 鬼 魚 鳥 鹵 鹿 麥 麻 黃 黍 黑 黹 黽 鼎 鼓 鼠 鼻 齊"),
    (0x2FD2, "齒 龍 龜 龠"), (0x3002, "."), (0x3036, "〒"), (0x3038, "十 卄 卅"), (0x309F, "より"), (0x30FF, "コト"),
    (0x3131, "\u1100 \u1101 \u11AA \u1102 \u11AC \u11AD \u1103 \u1104 \u1105"),
    (0x3140, "\u111A \u1106 \u1107 \u1108 \u1121"),
    (0x3165, "\u1114 \u1115 \u11C7 \u11C8 \u11CC \u11CE \u11D3 \u11D7 \u11D9 \u111C \u11DD \u11DF"),
    (0x3171, "\u111D \u111E \u1120 \u1122 \u1123 \u1127 \u1129 \u112B"),
    (0x317D, "\u1132 \u1136 \u1140 \u1147 \u114C \u11F1 \u11F2 \u1157 \u1158 \u1159 \u1184 \u1185"),
    (0x3189, "\u1188 \u1191 \u1192 \u1194 \u119E \u11A1"), (0x3192, "一 二 三 四 上 中 下 甲 乙 丙 丁 天 地 人"),
    (0x3200, "(\u1100) (\u1102) (\u1103) (\u1105) (\u1106) (\u1107) (\u1109) (\u110B) (\u110C)"),
    (0x3209, "(\u110E) (\u110F) (\u1110) (\u1111) (\u1112) (가) (나) (다) (라) (마) (바) (사) (아) (자)"),
    (0x3217, "(차) (카) (타) (파) (하) (주) (오전) (오후)"),
    (0x3220, "(一) (二) (三) (四) (五) (六) (七) (八) (九) (十) (月) (火) (水) (木) (金) (土) (日) (株) (有) (社) (名)"),
    (0x3235, "(特) (財) (祝) (労) (代) (呼) (学) (監) (企) (資) (協) (祭) (休) (自) (至) 問 幼 文 箏"),
    (0x3250, "pte 21 22 23 24 25 26 27 28 29 30 31 32 33 34 35 \u1100 \u1102 \u1103 \u1105 \u1106"),
    (0x3265, "\u1107 \u1109 \u110B \u110C \u110E"), (0x326E, "가 나 다 라 마 바 사 아 자 차 카 타 파 하 참고 주의 우"),
    (0x3280, "一 二 三 四 五 六 七 八 九 十 月 火 水 木 金 土 日 株 有 社 名 特 財 祝 労 秘 男 女 適 優 印 注 項 休 写 正 上 中 下 左 右 医"),
    (0x32AA, "宗 学 監 企 資 協 夜 36 37 38 39 40 41 42 43 44 45 46 47 48 49 50 1月 2月 3月 4月 5月 6月 7月 8月"),
    (0x32C8, "9月 10月 11月 12月 hg erg ev ltd"), (0x32EA, "ヒ フ ヘ ホ"), (0x32F3, "ヤ ユ ヨ"),
    (0x32FF, "令和 アパート アルファ アンペア アール イニング インチ ウォン エスクード エーカー オンス オーム カイリ カラット カロリー ガロン ガンマ ギガ ギニー"),
    (0x3312, "キュリー ギルダー キロ キログラム キロメートル キロワット グラム グラムトン クルゼイロ クローネ ケース コルナ コーポ サイクル サンチーム シリング"),
    (0x3322, "センチ セント ダース デシ ドル トン ナノ ノット ハイツ パーセント パーツ バーレル ピアストル ピクル ピコ ビル ファラッド フィート ブッシェル フラン"),
    (0x3336, "ヘクタール ペソ ペニヒ ヘルツ ペンス ページ ベータ ポイント ボルト ホン ポンド ホール ホーン マイクロ マイル マッハ マルク マンション ミクロン ミリ"),
    (0x334A, "ミリバール メガ メガトン メートル ヤード ヤール ユアン リットル リラ ルピー ルーブル レム レントゲン ワット 0点 1点 2点 3点 4点 5点 6点"),
    (0x335F, "7点 8点 9点 10点 11点 12点 13点 14点 15点 16点 17点 18点 19点 20点 21点 22点 23点 24点 hpa da au bar"),
    (0x3375, "ov pc dm dm2 dm3 iu 平成 昭和 大正 明治 株式会社 pa na μa ma ka kb mb gb cal kcal pf nf μf μg"),
    (0x338E, "mg kg hz khz mhz ghz thz μl ml dl kl fm nm μm mm cm km mm2 cm2 m2 km2 mm3 cm3 m3"),
    (0x33A6, "km3 m∕s m∕s2 pa kpa mpa gpa rad rad∕s rad∕s2 ps ns μs ms pv nv μv mv kv mv pw nw μw"),
    (0x33BD, "mw kw mw kω mω a.m. bq cc cd c∕kg co. db gy ha hp in kk km kt lm ln log lx mb mil"),
    (0x33D6, "mol ph p.m. ppm pr sr sv wb v∕m a∕m 1日 2日 3日 4日 5日 6日 7日 8日 9日 10日 11日 12日 13日 14日"),
    (0x33EE, "15日 16日 17日 18日 19日 20日 21日 22日 23日 24日 25日 26日 27日 28日 29日 30日 31日 gal"), (0xA69C, "ъ ь"),
    (0xA770, "ꝯ"), (0xA7F2, "c f q"), (0xA7F8, "ħ œ"), (0xAB5C, "ꜧ ꬷ ɫ ꭒ"), (0xAB69, "ʍ"),
    (0xF900, "豈 更 車 賈 滑 串 句 龜 龜 契 金 喇 奈 懶 癩 羅 蘿 螺 裸 邏 樂 洛 烙 珞 落 酪 駱 亂 卵 欄 爛 蘭 鸞 嵐 濫 藍 襤 拉 臘 蠟 廊 朗"),
    (0xF92A, "浪 狼 郎 來 冷 勞 擄 櫓 爐 盧 老 蘆 虜 路 露 魯 鷺 碌 祿 綠 菉 錄 鹿 論 壟 弄 籠 聾 牢 磊 賂 雷 壘 屢 樓 淚 漏 累 縷 陋 勒 肋"),
    (0xF954, "凜 凌 稜 綾 菱 陵 讀 拏 樂 諾 丹 寧 怒 率 異 北 磻 便 復 不 泌 數 索 參 塞 省 葉 說 殺 辰 沈 拾 若 掠 略 亮 兩 凉 梁 糧 良 諒"),
    (0xF97E, "量 勵 呂 女 廬 旅 濾 礪 閭 驪 麗 黎 力 曆 歷 轢 年 憐 戀 撚 漣 煉 璉 秊 練 聯 輦 蓮 連 鍊 列 劣 咽 烈 裂 說 廉 念 捻 殮 簾 獵"),
    (0xF9A8, "令 囹 寧 嶺 怜 玲 瑩 羚 聆 鈴 零 靈 領 例 禮 醴 隸 惡 了 僚 寮 尿 料 樂 燎 療 蓼 遼 龍 暈 阮 劉 杻 柳 流 溜 琉 留 硫 紐 類 六"),
    (0xF9D2, "戮 陸 倫 崙 淪 輪 律 慄 栗 率 隆 利 吏 履 易 李 梨 泥 理 痢 罹 裏 裡 里 離 匿 溺 吝 燐 璘 藺 隣 鱗 麟 林 淋 臨 立 笠 粒 狀 炙"),
    (0xF9FC, "識 什 茶 刺 切 度 拓 糖 宅 洞 暴 輻 行 降 見 廓 兀 嗀"), (0xFA10, "塚"), (0xFA12, "晴"), (0xFA15, "凞 猪 益 礼 神 祥 福 靖 精 羽"),
    (0xFA20, "蘒"), (0xFA22, "諸"), (0xFA25, "逸 都"),
    (0xFA2A, "飯 飼 館 鶴 郞 隷 侮 僧 免 勉 勤 卑 喝 嘆 器 塀 墨 層 屮 悔 慨 憎 懲 敏 既 暑 梅 海 渚 漢 煮 爫 琢 碑 社 祉 祈 祐 祖 祝 禍 禎"),
    (0xFA54, "穀 突 節 練 縉 繁 署 者 臭 艹 艹 著 褐 視 謁 謹 賓 贈 辶 逸 難 響 頻 恵 𤋮 舘"),
    (0xFA70, "並 况 全 侀 充 冀 勇 勺 喝 啕 喙 嗢 塚 墳 奄 奔 婢 嬨 廒 廙 彩 徭 惘 慎 愈 憎 慠 懲 戴 揄 搜 摒 敖 晴 朗 望 杖 歹 殺 流 滛 滋"),
    (0xFA9A, "漢 瀞 煮 瞧 爵 犯 猪 瑱 甆 画 瘝 瘟 益 盛 直 睊 着 磌 窱 節 类 絛 練 缾 者 荒 華 蝹 襁 覆 視 調 諸 請 謁 諾 諭 謹 變 贈 輸 遲"),
    (0xFAC4, "醙 鉶 陼 難 靖 韛 響 頋 頻 鬒 龜 𢡊 𢡄 𣏕 㮝 䀘 䀹 𥉉 𥳐 𧻓 齃 龎"), (0xFB00, "ff fi fl ffi ffl st st"),
    (0xFB13, "մն մե մի վն մխ"), (0xFB1D, "\u05D9\u05B4"),
    (0xFB1F, "\u05F2\u05B7 \u05E2 \u05D0 \u05D3 \u05D4 \u05DB \u05DC \u05DD \u05E8 \u05EA +"),
    (0xFB2A, "\u05E9\u05C1 \u05E9\u05C2 \u05E9\u05BC\u05C1 \u05E9\u05BC\u05C2 \u05D0\u05B7"),
    (0xFB2F, "\u05D0\u05B8 \u05D0\u05BC \u05D1\u05BC \u05D2\u05BC \u05D3\u05BC \u05D4\u05BC"),
    (0xFB35, "\u05D5\u05BC \u05D6\u05BC"),
    (0xFB38, "\u05D8\u05BC \u05D9\u05BC \u05DA\u05BC \u05DB\u05BC \u05DC\u05BC"), (0xFB3E, "\u05DE\u05BC"),
    (0xFB40, "\u05E0\u05BC \u05E1\u05BC"), (0xFB43, "\u05E3\u05BC \u05E4\u05BC"),
    (0xFB46, "\u05E6\u05BC \u05E7\u05BC \u05E8\u05BC \u05E9\u05BC \u05EA\u05BC \u05D5\u05B9"),
    (0xFB4C, "\u05D1\u05BF \u05DB\u05BF \u05E4\u05BF \u05D0\u05DC \u0671 \u0671"),
    (0xFB82, "\u068D \u068D \u068C \u068C \u068E \u068E \u0688 \u0688 \u0698 \u0698 \u0691 \u0691"),
    (0xFB9E, "\u06BA \u06BA"), (0xFBA4, "\u06C0 \u06C0"), (0xFBAE, "\u06D2 \u06D2 \u06D3 \u06D3"),
    (0xFBD7, "\u06C7 \u06C7 \u06C6 \u06C6 \u06C8 \u06C8 \u06C7\u0674 \u06CB \u06CB \u06C5 \u06C5"),
    (0xFBE2, "\u06C9 \u06C9"),
    (0xFBE8, "\u0649 \u0649 \u0626\u0627 \u0626\u0627 \u0626\u06D5 \u0626\u06D5 \u0626\u0648"),
    (0xFBEF, "\u0626\u0648 \u0626\u06C7 \u0626\u06C7 \u0626\u06C6 \u0626\u06C6 \u0626\u06C8"),
    (0xFBF5, "\u0626\u06C8 \u0626\u06D0 \u0626\u06D0 \u0626\u06D0 \u0626\u0649 \u0626\u0649"),
    (0xFBFB, "\u0626\u0649"),
    (0xFC00, "\u0626\u062C \u0626\u062D \u0626\u0645 \u0626\u0649 \u0626\u064A \u0628\u062C"),
    (0xFC06, "\u0628\u062D \u0628\u062E \u0628\u0645 \u0628\u0649 \u0628\u064A \u062A\u062C"),
    (0xFC0C, "\u062A\u062D \u062A\u062E \u062A\u0645 \u062A\u0649 \u062A\u064A \u062B\u062C"),
    (0xFC12, "\u062B\u0645 \u062B\u0649 \u062B\u064A \u062C\u062D \u062C\u0645 \u062D\u062C"),
    (0xFC18, "\u062D\u0645 \u062E\u062C \u062E\u062D \u062E\u0645 \u0633\u062C \u0633\u062D"),
    (0xFC1E, "\u0633\u062E \u0633\u0645 \u0635\u062D \u0635\u0645 \u0636\u062C \u0636\u062D"),
    (0xFC24, "\u0636\u062E \u0636\u0645 \u0637\u062D \u0637\u0645 \u0638\u0645 \u0639\u062C"),
    (0xFC2A, "\u0639\u0645 \u063A\u062C \u063A\u0645 \u0641\u062C \u0641\u062D \u0641\u062E"),
    (0xFC30, "\u0641\u0645 \u0641\u0649 \u0641\u064A \u0642\u062D \u0642\u0645 \u0642\u0649"),
    (0xFC36, "\u0642\u064A \u0643\u0627 \u0643\u062C \u0643\u062D \u0643\u062E \u0643\u0644"),
    (0xFC3C, "\u0643\u0645 \u0643\u0649 \u0643\u064A \u0644\u062C \u0644\u062D \u0644\u062E"),
    (0xFC42, "\u0644\u0645 \u0644\u0649 \u0644\u064A \u0645\u062C \u0645\u062D \u0645\u062E"),
    (0xFC48, "\u0645\u0645 \u0645\u0649 \u0645\u064A \u0646\u062C \u0646\u062D \u0646\u062E"),
    (0xFC4E, "\u0646\u0645 \u0646\u0649 \u0646\u064A \u0647\u062C \u0647\u0645 \u0647\u0649"),
    (0xFC54, "\u0647\u064A \u064A\u062C \u064A\u062D \u064A\u062E \u064A\u0645 \u064A\u0649"),
    (0xFC5A, "\u064A\u064A \u0630\u0670 \u0631\u0670 \u0649\u0670"),
    (0xFC64, "\u0626\u0631 \u0626\u0632 \u0626\u0645 \u0626\u0646 \u0626\u0649 \u0626\u064A"),
    (0xFC6A, "\u0628\u0631 \u0628\u0632 \u0628\u0645 \u0628\u0646 \u0628\u0649 \u0628\u064A"),
    (0xFC70, "\u062A\u0631 \u062A\u0632 \u062A\u0645 \u062A\u0646 \u062A\u0649 \u062A\u064A"),
    (0xFC76, "\u062B\u0631 \u062B\u0632 \u062B\u0645 \u062B\u0646 \u062B\u0649 \u062B\u064A"),
    (0xFC7C, "\u0641\u0649 \u0641\u064A \u0642\u0649 \u0642\u064A \u0643\u0627 \u0643\u0644"),
    (0xFC82, "\u0643\u0645 \u0643\u0649 \u0643\u064A \u0644\u0645 \u0644\u0649 \u0644\u064A"),
    (0xFC88, "\u0645\u0627 \u0645\u0645 \u0646\u0631 \u0646\u0632 \u0646\u0645 \u0646\u0646"),
    (0xFC8E, "\u0646\u0649 \u0646\u064A \u0649\u0670 \u064A\u0631 \u064A\u0632 \u064A\u0645"),
    (0xFC94, "\u064A\u0646 \u064A\u0649 \u064A\u064A \u0626\u062C \u0626\u062D \u0626\u062E"),
    (0xFC9A, "\u0626\u0645 \u0626\u0647 \u0628\u062C \u0628\u062D \u0628\u062E \u0628\u0645"),
    (0xFCA0, "\u0628\u0647 \u062A\u062C \u062A\u062D \u062A\u062E \u062A\u0645 \u062A\u0647"),
    (0xFCA6, "\u062B\u0645 \u062C\u062D \u062C\u0645 \u062D\u062C \u062D\u0645 \u062E\u062C"),
    (0xFCAC, "\u062E\u0645 \u0633\u062C \u0633\u062D \u0633\u062E \u0633\u0645 \u0635\u062D"),
    (0xFCB2, "\u0635\u062E \u0635\u0645 \u0636\u062C \u0636\u062D \u0636\u062E \u0636\u0645"),
    (0xFCB8, "\u0637\u062D \u0638\u0645 \u0639\u062C \u0639\u0645 \u063A\u062C \u063A\u0645"),
    (0xFCBE, "\u0641\u062C \u0641\u062D \u0641\u062E \u0641\u0645 \u0642\u062D \u0642\u0645"),
    (0xFCC4, "\u0643\u062C \u0643\u062D \u0643\u062E \u0643\u0644 \u0643\u0645 \u0644\u062C"),
    (0xFCCA, "\u0644\u062D \u0644\u062E \u0644\u0645 \u0644\u0647 \u0645\u062C \u0645\u062D"),
    (0xFCD0, "\u0645\u062E \u0645\u0645 \u0646\u062C \u0646\u062D \u0646\u062E \u0646\u0645"),
    (0xFCD6, "\u0646\u0647 \u0647\u062C \u0647\u0645 \u0647\u0670 \u064A\u062C \u064A\u062D"),
    (0xFCDC, "\u064A\u062E \u064A\u0645 \u064A\u0647 \u0626\u0645 \u0626\u0647 \u0628\u0645"),
    (0xFCE2, "\u0628\u0647 \u062A\u0645 \u062A\u0647 \u062B\u0645 \u062B\u0647 \u0633\u0645"),
    (0xFCE8, "\u0633\u0647 \u0634\u0645 \u0634\u0647 \u0643\u0644 \u0643\u0645 \u0644\u0645"),
    (0xFCEE, "\u0646\u0645 \u0646\u0647 \u064A\u0645 \u064A\u0647 \u0640\u064E\u0651"),
    (0xFCF3, "\u0640\u064F\u0651 \u0640\u0650\u0651 \u0637\u0649 \u0637\u064A \u0639\u0649"),
    (0xFCF8, "\u0639\u064A \u063A\u0649 \u063A\u064A \u0633\u0649 \u0633\u064A \u0634\u0649"),
    (0xFCFE, "\u0634\u064A \u062D\u0649 \u062D\u064A \u062C\u0649 \u062C\u064A \u062E\u0649"),
    (0xFD04, "\u062E\u064A \u0635\u0649 \u0635\u064A \u0636\u0649 \u0636\u064A \u0634\u062C"),
    (0xFD0A, "\u0634\u062D \u0634\u062E \u0634\u0645 \u0634\u0631 \u0633\u0631 \u0635\u0631"),
    (0xFD10, "\u0636\u0631 \u0637\u0649 \u0637\u064A \u0639\u0649 \u0639\u064A \u063A\u0649"),
    (0xFD16, "\u063A\u064A \u0633\u0649 \u0633\u064A \u0634\u0649 \u0634\u064A \u062D\u0649"),
    (0xFD1C, "\u062D\u064A \u062C\u0649 \u062C\u064A \u062E\u0649 \u062E\u064A \u0635\u0649"),
    (0xFD22, "\u0635\u064A \u0636\u0649 \u0636\u064A \u0634\u062C \u0634\u062D \u0634\u062E"),
    (0xFD28, "\u0634\u0645 \u0634\u0631 \u0633\u0631 \u0635\u0631 \u0636\u0631 \u0634\u062C"),
    (0xFD2E, "\u0634\u062D \u0634\u062E \u0634\u0645 \u0633\u0647 \u0634\u0647 \u0637\u0645"),
    (0xFD34, "\u0633\u062C \u0633\u062D \u0633\u062E \u0634\u062C \u0634\u062D \u0634\u062E"),
    (0xFD3A, "\u0637\u0645 \u0638\u0645 \u0627\u064B \u0627\u064B"),
    (0xFD50, "\u062A\u062C\u0645 \u062A\u062D\u062C \u062A\u062D\u062C \u062A\u062D\u0645"),
    (0xFD54, "\u062A\u062E\u0645 \u062A\u0645\u062C \u062A\u0645\u062D \u062A\u0645\u062E"),
    (0xFD58, "\u062C\u0645\u062D \u062C\u0645\u062D \u062D\u0645\u064A \u062D\u0645\u0649"),
    (0xFD5C, "\u0633\u062D\u062C \u0633\u062C\u062D \u0633\u062C\u0649 \u0633\u0645\u062D"),
    (0xFD60, "\u0633\u0645\u062D \u0633\u0645\u062C \u0633\u0645\u0645 \u0633\u0645\u0645"),
    (0xFD64, "\u0635\u062D\u062D \u0635\u062D\u062D \u0635\u0645\u0645 \u0634\u062D\u0645"),
    (0xFD68, "\u0634\u062D\u0645 \u0634\u062C\u064A \u0634\u0645\u062E \u0634\u0645\u062E"),
    (0xFD6C, "\u0634\u0645\u0645 \u0634\u0645\u0645 \u0636\u062D\u0649 \u0636\u062E\u0645"),
    (0xFD70, "\u0636\u062E\u0645 \u0637\u0645\u062D \u0637\u0645\u062D \u0637\u0645\u0645"),
    (0xFD74, "\u0637\u0645\u064A \u0639\u062C\u0645 \u0639\u0645\u0645 \u0639\u0645\u0645"),
    (0xFD78, "\u0639\u0645\u0649 \u063A\u0645\u0645 \u063A\u0645\u064A \u063A\u0645\u0649"),
    (0xFD7C, "\u0641\u062E\u0645 \u0641\u062E\u0645 \u0642\u0645\u062D \u0642\u0645\u0645"),
    (0xFD80, "\u0644\u062D\u0645 \u0644\u062D\u064A \u0644\u062D\u0649 \u0644\u062C\u062C"),
    (0xFD84, "\u0644\u062C\u062C \u0644\u062E\u0645 \u0644\u062E\u0645 \u0644\u0645\u062D"),
    (0xFD88, "\u0644\u0645\u062D \u0645\u062D\u062C \u0645\u062D\u0645 \u0645\u062D\u064A"),
    (0xFD8C, "\u0645\u062C\u062D \u0645\u062C\u0645 \u0645\u062E\u062C \u0645\u062E\u0645"),
    (0xFD92, "\u0645\u062C\u062E \u0647\u0645\u062C \u0647\u0645\u0645 \u0646\u062D\u0645"),
    (0xFD96, "\u0646\u062D\u0649 \u0646\u062C\u0645 \u0646\u062C\u0645 \u0646\u062C\u0649"),
    (0xFD9A, "\u0646\u0645\u064A \u0646\u0645\u0649 \u064A\u0645\u0645 \u064A\u0645\u0645"),
    (0xFD9E, "\u0628\u062E\u064A \u062A\u062C\u064A \u062A\u062C\u0649 \u062A\u062E\u064A"),
    (0xFDA2, "\u062A\u062E\u0649 \u062A\u0645\u064A \u062A\u0645\u0649 \u062C\u0645\u064A"),
    (0xFDA6, "\u062C\u062D\u0649 \u062C\u0645\u0649 \u0633\u062E\u0649 \u0635\u062D\u064A"),
    (0xFDAA, "\u0634\u062D\u064A \u0636\u062D\u064A \u0644\u062C\u064A \u0644\u0645\u064A"),
    (0xFDAE, "\u064A\u062D\u064A \u064A\u062C\u064A \u064A\u0645\u064A \u0645\u0645\u064A"),
    (0xFDB2, "\u0642\u0645\u064A \u0646\u062D\u064A \u0642\u0645\u062D \u0644\u062D\u0645"),
    (0xFDB6, "\u0639\u0645\u064A \u0643\u0645\u064A \u0646\u062C\u062D \u0645\u062E\u064A"),
    (0xFDBA, "\u0644\u062C\u0645 \u0643\u0645\u0645 \u0644\u062C\u0645 \u0646\u062C\u062D"),
    (0xFDBE, "\u062C\u062D\u064A \u062D\u062C\u064A \u0645\u062C\u064A \u0641\u0645\u064A"),
    (0xFDC2, "\u0628\u062D\u064A \u0643\u0645\u0645 \u0639\u062C\u0645 \u0635\u0645\u0645"),
    (0xFDC6, "\u0633\u062E\u064A \u0646\u062C\u064A"),
    (0xFDF0, "\u0635\u0644\u06D2 \u0642\u0644\u06D2 \u0627\u0644\u0644\u0647"),
    (0xFDF3, "\u0627\u0643\u0628\u0631 \u0645\u062D\u0645\u062F \u0635\u0644\u0639\u0645"),
    (0xFDF6, "\u0631\u0633\u0648\u0644 \u0639\u0644\u064A\u0647 \u0648\u0633\u0644\u0645"),
    (0xFDF9, "\u0635\u0644\u0649"), (0xFDFC, "\u0631\u06CC\u0627\u0644"), (0xFE10, ", 、 . : ; ! ? 〖 〗 ..."),
    (0xFE30, ".. — – _ _ ( ) \x7b \x7d 〔 〕 【 】 《 》 〈 〉"), (0xFE47, "[ ]"), (0xFE4D, "_ _ _ , 、 ."),
    (0xFE54, "; : ? ! — ( ) \x7b \x7d 〔 〕 # & * + - < > ="), (0xFE68, "\\ $ % @"), (0xFE71, "\u0640\u064B"),
    (0xFE77, "\u0640\u064E"), (0xFE79, "\u0640\u064F"), (0xFE7B, "\u0640\u0650"), (0xFE7D, "\u0640\u0651"),
    (0xFE7F, "\u0640\u0652 \u0621 \u0622 \u0622 \u0623 \u0623 \u0624 \u0624 \u0625 \u0625 \u0626"),
    (0xFE8A, "\u0626 \u0626 \u0626 \u0627 \u0627"), (0xFE93, "\u0629 \u0629"),
    (0xFEA9, "\u062F \u062F \u0630 \u0630 \u0631 \u0631 \u0632 \u0632"), (0xFEED, "\u0648 \u0648 \u0649 \u0649"),
    (0xFEF5, "\u0644\u0622 \u0644\u0622 \u0644\u0623 \u0644\u0623 \u0644\u0625 \u0644\u0625"),
    (0xFEFB, "\u0644\u0627 \u0644\u0627"), (0xFF5F, "⦅ ⦆ . 「 」 、 ・ ヲ"), (0xFF6C, "ャ ュ ョ ッ ー"), (0xFF8B, "ヒ フ ヘ ホ"),
    (0xFF94, "ヤ ユ ヨ"), (0xFF9C, "ワ ン \u3099 \u309A"),
    (0xFFA1, "\u1100 \u1101 \u11AA \u1102 \u11AC \u11AD \u1103 \u1104 \u1105"),
    (0xFFB0, "\u111A \u1106 \u1107 \u1108 \u1121"), (0xFFDA, "\u1173 \u1174 \u1175"), (0xFFE0, "¢ £ ¬"),
    (0xFFE4, "¦ ¥ ₩"), (0xFFE8, "│"), (0xFFED, "■ ○"), (0x10781, "ː ˑ æ ʙ ɓ"),
    (0x10787, "ʣ ꭦ ʥ ʤ ɖ ɗ ᶑ ɘ ɞ ʩ ɤ ɢ ɠ ʛ ħ ʜ ɧ ʄ ʪ ʫ ɬ 𝼄 ꞎ ɮ 𝼅 ʎ 𝼆 ø ɶ ɷ q ɺ 𝼈 ɽ ɾ ʀ ʨ ʦ ꭧ ʧ ʈ ⱱ"),
    (0x107B2, "ʏ ʡ ʢ ʘ ǀ ǁ ǂ 𝼊 𝼞"), (0x1D15E, "𝅗𝅥 𝅘𝅥 𝅘𝅥𝅮 𝅘𝅥𝅯 𝅘𝅥𝅰 𝅘𝅥𝅱 𝅘𝅥𝅲"), (0x1D1BB, "𝆹𝅥 𝆺𝅥 𝆹𝅥𝅮 𝆺𝅥𝅮 𝆹𝅥𝅯 𝆺𝅥𝅯"),
    (0x1D49C, "a"), (0x1D49E, "c d"), (0x1D4A2, "g"), (0x1D4A5, "j k"), (0x1D4BB, "f"), (0x1D4BD, "h"),
    (0x1D504, "a b"), (0x1D538, "a b"), (0x1D546, "o"), (0x1D6A4, "ı ȷ"), (0x1D6B9, "θ"), (0x1D6C1, "∇"),
    (0x1D6D3, "σ σ"), (0x1D6DB, "∂ ε θ κ φ ρ π"), (0x1D6F3, "θ"), (0x1D6FB, "∇"), (0x1D70D, "σ σ"),
    (0x1D715, "∂ ε θ κ φ ρ π"), (0x1D72D, "θ"), (0x1D735, "∇"), (0x1D747, "σ σ"), (0x1D74F, "∂ ε θ κ φ ρ π"),
    (0x1D767, "θ"), (0x1D76F, "∇"), (0x1D781, "σ σ"), (0x1D789, "∂ ε θ κ φ ρ π"), (0x1D7A1, "θ"), (0x1D7A9, "∇"),
    (0x1D7BB, "σ σ"), (0x1D7C3, "∂ ε θ κ φ ρ π ϝ ϝ"), (0x1E039, "к л м"), (0x1E047, "ы э ю ꚉ ә і ј ө ү ӏ"),
    (0x1E05A, "к л о п с у"), (0x1E065, "ъ ы ґ і ѕ џ ҫ ꙑ ұ"), (0x1EE00, "\u0627 \u0628 \u062C \u062F"),
    (0x1EE05, "\u0648 \u0632 \u062D \u0637 \u064A"),
    (0x1EE0E, "\u0633 \u0639 \u0641 \u0635 \u0642 \u0631 \u0634 \u062A \u062B \u062E \u0630 \u0636"),
    (0x1EE1A, "\u0638 \u063A \u066E \u06BA \u06A1 \u066F"), (0x1EE21, "\u0628 \u062C"), (0x1EE24, "\u0647"),
    (0x1EE27, "\u062D"), (0x1EE29, "\u064A"), (0x1EE2E, "\u0633 \u0639 \u0641 \u0635 \u0642"),
    (0x1EE34, "\u0634 \u062A \u062B \u062E"), (0x1EE39, "\u0636"), (0x1EE3B, "\u063A"), (0x1EE42, "\u062C"),
    (0x1EE47, "\u062D"), (0x1EE49, "\u064A"), (0x1EE4B, "\u0644"), (0x1EE4D, "\u0646 \u0633 \u0639"),
    (0x1EE51, "\u0635 \u0642"), (0x1EE54, "\u0634"), (0x1EE57, "\u062E"), (0x1EE59, "\u0636"), (0x1EE5B, "\u063A"),
    (0x1EE5D, "\u06BA"), (0x1EE5F, "\u066F"), (0x1EE61, "\u0628 \u062C"), (0x1EE64, "\u0647"),
    (0x1EE67, "\u062D \u0637 \u064A \u0643"), (0x1EE6C, "\u0645 \u0646 \u0633 \u0639 \u0641 \u0635 \u0642"),
    (0x1EE74, "\u0634 \u062A \u062B \u062E"), (0x1EE79, "\u0636 \u0638 \u063A \u066E"), (0x1EE7E, "\u06A1"),
    (0x1EE80, "\u0627 \u0628 \u062C \u062F \u0647 \u0648 \u0632 \u062D \u0637 \u064A"),
    (0x1EE8B, "\u0644 \u0645 \u0646 \u0633 \u0639 \u0641 \u0635 \u0642 \u0631 \u0634 \u062A \u062B"),
    (0x1EE97, "\u062E \u0630 \u0636 \u0638 \u063A"), (0x1EEA1, "\u0628 \u062C \u062F"),
    (0x1EEA5, "\u0648 \u0632 \u062D \u0637 \u064A"),
    (0x1EEAB, "\u0644 \u0645 \u0646 \u0633 \u0639 \u0641 \u0635 \u0642 \u0631 \u0634 \u062A \u062B"),
    (0x1EEB7, "\u062E \u0630 \u0636 \u0638 \u063A"), (0x1F100, "0. 0, 1, 2, 3, 4, 5, 6, 7, 8, 9,"),
    (0x1F110, "(a) (b) (c) (d) (e) (f) (g) (h) (i) (j) (k) (l) (m) (n) (o) (p) (q) (r) (s) (t) (u)"),
    (0x1F125, "(v) (w) (x) (y) (z) 〔s〕 c r cd wz"), (0x1F14A, "hv mv sd ss ppv wc"), (0x1F16A, "mc md mr"),
    (0x1F190, "dj"), (0x1F200, "ほか ココ サ"),
    (0x1F210, "手 字 双 デ 二 多 解 天 交 映 無 料 前 後 再 新 初 終 生 販 声 吹 演 投 捕 一 三 遊 左 中 右 指 走 打 禁 空 合 満 有 月 申 割"),
    (0x1F23A, "営 配"), (0x1F240, "〔本〕 〔三〕 〔二〕 〔安〕 〔点〕 〔打〕 〔盗〕 〔勝〕 〔敗〕"), (0x1F250, "得 可"),
    (0x2F800, "丽 丸 乁 𠄢 你 侮 侻 倂 偺 備 僧 像 㒞 𠘺 免 兔 兤 具 𠔜 㒹 內 再 𠕋 冗 冤 仌 冬 况 𩇟 凵 刃 㓟 刻 剆 割 剷 㔕 勇 勉 勤 勺 包"),
    (0x2F82A, "匆 北 卉 卑 博 即 卽 卿 卿 卿 𠨬 灰 及 叟 𠭣 叫 叱 吆 咞 吸 呈 周 咢 哶 唐 啓 啣 善 善 喙 喫 喳 嗂 圖 嘆 圗 噑 噴 切 壮 城 埴"),
    (0x2F854, "堍 型 堲 報 墬 𡓤 売 壷 夆 多 夢 奢 𡚨 𡛪 姬 娛 娧 姘 婦 㛮 㛼 嬈 嬾 嬾 𡧈 寃 寘 寧 寳 𡬘 寿 将 当 尢 㞁 屠 屮 峀 岍 𡷤 嵃 𡷦"),
    (0x2F87E, "嵮 嵫 嵼 巡 巢 㠯 巽 帨 帽 幩 㡢 𢆃 㡼 庰 庳 庶 廊 𪎒 廾 𢌱 𢌱 舁 弢 弢 㣇 𣊸 𦇚 形 彫 㣣 徚 忍 志 忹 悁 㤺 㤜 悔 𢛔 惇 慈 慌"),
    (0x2F8A8, "慎 慌 慺 憎 憲 憤 憯 懞 懲 懶 成 戛 扝 抱 拔 捐 𢬌 挽 拼 捨 掃 揤 𢯱 搢 揅 掩 㨮 摩 摾 撝 摷 㩬 敏 敬 𣀊 旣 書 晉 㬙 暑 㬈 㫤"),
    (0x2F8D2, "冒 冕 最 暜 肭 䏙 朗 望 朡 杞 杓 𣏃 㭉 柺 枅 桒 梅 𣑭 梎 栟 椔 㮝 楂 榣 槪 檨 𣚣 櫛 㰘 次 𣢧 歔 㱎 歲 殟 殺 殻 𣪍 𡴋 𣫺 汎 𣲼"),
    (0x2F8FC, "沿 泍 汧 洖 派 海 流 浩 浸 涅 𣴞 洴 港 湮 㴳 滋 滇 𣻑 淹 潮 𣽞 𣾎 濆 瀹 瀞 瀛 㶖 灊 災 灷 炭 𠔥 煅 𤉣 熜 𤎫 爨 爵 牐 𤘈 犀 犕"),
    (0x2F926, "𤜵 𤠔 獺 王 㺬 玥 㺸 㺸 瑇 瑜 瑱 璅 瓊 㼛 甤 𤰶 甾 𤲒 異 𢆟 瘐 𤾡 𤾸 𥁄 㿼 䀈 直 𥃳 𥃲 𥄙 𥄳 眞 真 真 睊 䀹 瞋 䁆 䂖 𥐝 硎 碌"),
    (0x2F950, "磌 䃣 𥘦 祖 𥚚 𥛅 福 秫 䄯 穀 穊 穏 𥥼 𥪧 𥪧 竮 䈂 𥮫 篆 築 䈧 𥲀 糒 䊠 糨 糣 紀 𥾆 絣 䌁 緇 縂 繅 䌴 𦈨 𦉇 䍙 𦋙 罺 𦌾 羕 翺"),
    (0x2F97A, "者 𦓚 𦔣 聠 𦖨 聰 𣍟 䏕 育 脃 䐋 脾 媵 𦞧 𦞵 𣎓 𣎜 舁 舄 辞 䑫 芑 芋 芝 劳 花 芳 芽 苦 𦬼 若 茝 荣 莭 茣 莽 菧 著 荓 菊 菌 菜"),
    (0x2F9A4, "𦰶 𦵫 𦳕 䔫 蓱 蓳 蔖 𧏊 蕤 𦼬 䕝 䕡 𦾱 𧃒 䕫 虐 虜 虧 虩 蚩 蚈 蜎 蛢 蝹 蜨 蝫 螆 䗗 蟡 蠁 䗹 衠 衣 𧙧 裗 裞 䘵 裺 㒻 𧢮 𧥦 䚾"),
    (0x2F9CE, "䛇 誠 諭 變 豕 𧲨 貫 賁 贛 起 𧼯 𠠄 跋 趼 跰 𠣞 軔 輸 𨗒 𨗭 邔 郱 鄑 𨜮 鄛 鈸 鋗 鋘 鉼 鏹 鐕 𨯺 開 䦕 閷 𨵷 䧦 雃 嶲 霣 𩅅 𩈚"),
    (0x2F9F8, "䩮 䩶 韠 𩐊 䪲 𩒖 頋 頋 頩 𩖶 飢 䬳 餩 馧 駂 駾 䯎 𩬰 鬒 鱀 鳽 䳎 䳭 鵧 𪃎 䳸 𪄅 𪈎 𪊑 麻 䵖 黹 黾 鼅 鼏 鼖 鼻 𪘀") ]

/-- Characters that stand for nothing: invisible hyphens, joiners and variation selectors. -/
def ignoredRanges : Ranges := [
    (0xAD, 0xAD), (0x34F, 0x34F), (0x115F, 0x1160), (0x17B4, 0x17B5), (0x180B, 0x180D), (0x180F, 0x180F),
    (0x200B, 0x200B), (0x2060, 0x2060), (0x2064, 0x2064), (0x3164, 0x3164), (0xFE00, 0xFE0F), (0xFEFF, 0xFEFF),
    (0xFFA0, 0xFFA0), (0x1BCA0, 0x1BCA3), (0xE0100, 0xE01EF) ]

/-- Characters without a place in a name although they can be seen: blanks, marks that stand alone, and signs that
describe or replace others. -/
def misplacedRanges : Ranges := [
    (0xA0, 0xA0), (0xA8, 0xA8), (0xAF, 0xAF), (0xB4, 0xB4), (0xB8, 0xB8), (0x2D8, 0x2DD), (0x37A, 0x37A),
    (0x384, 0x385), (0x1FBD, 0x1FBD), (0x1FBF, 0x1FC1), (0x1FCD, 0x1FCF), (0x1FDD, 0x1FDF), (0x1FED, 0x1FEE),
    (0x1FFD, 0x1FFE), (0x2017, 0x2017), (0x202F, 0x202F), (0x203E, 0x203E), (0x205F, 0x205F), (0x2FF0, 0x3000),
    (0x309B, 0x309C), (0x31EF, 0x31EF), (0xFC5E, 0xFC63), (0xFDFA, 0xFDFB), (0xFE49, 0xFE4C), (0xFE70, 0xFE70),
    (0xFE72, 0xFE72), (0xFE74, 0xFE74), (0xFE76, 0xFE76), (0xFE78, 0xFE78), (0xFE7A, 0xFE7A), (0xFE7C, 0xFE7C),
    (0xFE7E, 0xFE7E), (0xFFE3, 0xFFE3), (0xFFF9, 0xFFFD) ]

/-- What a run says a code point stands for. -/
def FoldRun.image? (run : FoldRun) (code : Nat) : Option Char :=
  if run.first ≤ code ∧ code ≤ run.last ∧ (code - run.first) % run.stride = 0 then
    some (Char.ofNat (run.target + (code - run.first) / run.stride * run.step))
  else none

/-- The words of a text between spaces. -/
def words : List Char → List (List Char)
  | [] => [[]]
  | c :: rest =>
    match words rest with
    | [] => [[c]]
    | w :: ws => if c = ' ' then [] :: w :: ws else (c :: w) :: ws

/-- What a row says a code point stands for. -/
def rowImage? (code : Nat) (row : Nat × String) : Option (List Char) :=
  if row.1 ≤ code ∧ code ≤ row.1 + row.2.length then (words row.2.toList)[code - row.1]? else none

/-- Whether a character may stand in a name once it has been replaced by what it stands for. The two joiners may. -/
def hasPlace (c : Char) : Bool :=
  c = '\u200C' || c = '\u200D' || (!misplacedRanges.contains c && (!isUnprintable c || isMark c))

/-- What a character stands for in a name; nothing is returned for one that has no place there. -/
def plainForm? (c : Char) : Option (List Char) :=
  if c.toNat < 0x80 then some [c.toLower]
  else if ignoredRanges.contains c then some []
  else match foldRuns.findSome? (·.image? c.toNat), foldRows.findSome? (rowImage? c.toNat), smallLetter? c with
    | some d, _, _ => some [d]
    | none, some text, _ => some text
    | none, none, some d => some [d]
    | none, none, none => if hasPlace c then some [c] else none

end Colloquy.Text
