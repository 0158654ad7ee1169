import Colloquy.Text.Compatibility
import Colloquy.Text.Composition
import Colloquy.Text.Direction
import Colloquy.Text.Joining
import Colloquy.Url.Ipv4
import Colloquy.Url.Ipv6
import Colloquy.Url.Percent
import Colloquy.Url.Punycode

/-!
# Hosts

The host of an address in a scheme of the web is a name or a number. A name is brought into its plain form, and each of
its labels that is not ASCII is written in ASCII, after the mark `xn--`. In any other scheme a host is any text without
certain marks. An address of sixteen bytes stands in brackets in both.
-/

namespace Colloquy.Url

/-- The mark of a label that stands for one beyond ASCII. -/
def encodedMark : List Char := "xn--".toList

/-- Whether the host of a scheme of the web may not hold a character. -/
def isOutsideName (c : Char) : Bool :=
  c.toNat ≤ 0x20 || c.toNat = 0x7F || ['%', '#', '/', ':', '<', '>', '?', '@', '[', '\\', ']', '^', '|'].contains c

/-- Whether any other host may not hold a character. -/
def isOutsideHost (c : Char) : Bool :=
  [Char.ofNat 0, ' ', '#', '/', ':', '<', '>', '?', '@', '[', '\\', ']', '^', '|'].contains c

/-- A text with every character in its plain form. -/
def plainName? (text : List Char) : Option (List Char) :=
  (text.mapM Text.plainForm?).map fun forms => Text.compose forms.flatten

/-- Whether a label may start as it does and have the joiners it has. -/
def isLabel (label : List Char) : Bool :=
  !label.head?.any Text.isMark && Text.joinersFit [] label

/-- The label that one in plain form stands for. One with the mark is in ASCII and stands for a plain one beyond it. -/
def meantLabel? (label : List Char) : Option (List Char) :=
  if encodedMark.isPrefixOf label then
    match Punycode.decode? (label.drop encodedMark.length) with
    | none => none
    | some name =>
      if label.all (·.toNat < 0x80) ∧ name.any (0x80 ≤ ·.toNat) ∧ isLabel name ∧ plainName? name = some name then some name
      else none
  else if isLabel label then some label
  else none

/-- A label in ASCII. -/
def asciiLabel (label : List Char) : List Char :=
  if label.all (·.toNat < 0x80) then label else encodedMark ++ Punycode.encode label

/-- A name in ASCII. Each label of a name that is partly written from right to left keeps to one direction. -/
def asciiName? (text : List Char) : Option (List Char) := do
  let plain ← plainName? text
  if plain.any isOutsideName then none
  else
    let labels := Ipv4.parts plain
    let meant ← labels.mapM meantLabel?
    if meant.any Text.hasRightToLeft ∧ !meant.all Text.keepsDirection then none
    else return ((labels.map asciiLabel).intersperse ['.']).flatten

/-- An address of sixteen bytes in brackets. -/
def bracketed? (text : List Char) : Option (List Char) :=
  if text.getLast? = some ']' then
    (Ipv6.read? (text.drop 1).dropLast).map fun pieces => '[' :: Ipv6.print pieces ++ [']']
  else none

/-- The host that a text writes, in its normal form. The host of a scheme of the web is not empty. -/
def host? (web : Bool) (text : List Char) : Option (List Char) :=
  if text.head? = some '[' then bracketed? text
  else if !web then if text.any isOutsideHost then none else some (percentEncode [] text)
  else
    match (Utf8.decode? (percentDecode text)).bind asciiName? with
    | none => none
    | some name =>
      if name.isEmpty then none
      else if Ipv4.endsInNumber name then (Ipv4.read? name).map Ipv4.print
      else some name

end Colloquy.Url
