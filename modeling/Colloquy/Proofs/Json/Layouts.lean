import Colloquy.Json.Printer
import Colloquy.Json.Reader

/-!
# Layouts

The ways to write a value differ in the spaces between its parts alone. Here they are one printer (`writeAt`), which is given where to put
spaces (`Layout`): nowhere is `print` (`print_eq`), and a new line before each item and field is `prettyAt` (`prettyAt_eq`).
-/

namespace Colloquy.Json

/-- A text of spaces only. -/
def IsBlank (text : List Char) : Prop :=
  ∀ c ∈ text, isSpace c = true

theorem skipSpaces_blank {spaces : List Char} (hspaces : IsBlank spaces) (rest : List Char) :
    skipSpaces (spaces ++ rest) = skipSpaces rest :=
  List.dropWhile_append_of_pos hspaces

theorem isBlank_nil : IsBlank [] := nofun

theorem isBlank_newline (level : Nat) : IsBlank (newline level) := by
  intro c hc
  rcases List.mem_cons.mp hc with rfl | hc
  · rfl
  · rw [List.eq_of_mem_replicate hc]
    rfl

/-- The spaces in a container: before each of its items or fields, before its end, and after the colon that follows a key. The first two
go by the number of containers around it; a container without items has none. -/
structure Layout where
  item : Nat → List Char
  close : Nat → List Char
  colon : List Char
  isBlank_item : ∀ level, IsBlank (item level)
  isBlank_close : ∀ level, IsBlank (close level)
  isBlank_colon : IsBlank colon

namespace Layout

/-- No spaces. -/
def tight : Layout where
  item _ := []
  close _ := []
  colon := []
  isBlank_item _ := isBlank_nil
  isBlank_close _ := isBlank_nil
  isBlank_colon := isBlank_nil

/-- One item or field on a line. -/
def indented : Layout where
  item level := newline (level + 1)
  close level := newline level
  colon := [' ']
  isBlank_item level := isBlank_newline (level + 1)
  isBlank_close level := isBlank_newline level
  isBlank_colon := by simp [IsBlank, isSpace]

end Layout

variable (l : Layout)

mutual

/-- The text of a value with some containers around it. -/
def writeAt (level : Nat) : Json → List Char
  | .arr (v :: rest) => '[' :: (l.item level ++ (writeAt (level + 1) v ++ writeItems level rest))
  | .obj ((k, v) :: rest) =>
    '{' :: (l.item level ++ (printString k.toList ++ ':' :: (l.colon ++ (writeAt (level + 1) v ++ writeFields level rest))))
  | v => print v

/-- The items of an array after the first, and its end. -/
def writeItems (level : Nat) : List Json → List Char
  | [] => l.close level ++ [']']
  | v :: rest => ',' :: (l.item level ++ (writeAt (level + 1) v ++ writeItems level rest))

/-- The fields of an object after the first, and its end. -/
def writeFields (level : Nat) : List (String × Json) → List Char
  | [] => l.close level ++ ['}']
  | (k, v) :: rest =>
    ',' :: (l.item level ++ (printString k.toList ++ ':' :: (l.colon ++ (writeAt (level + 1) v ++ writeFields level rest))))

end

theorem writeAt_num (level : Nat) (n : JsonNumber) : writeAt l level (.num n) = printNumber n := rfl

theorem writeAt_str (level : Nat) (s : String) : writeAt l level (.str s) = printString s.toList := rfl

mutual

theorem print_eq : ∀ (level : Nat) (v : Json), print v = writeAt .tight level v
  | _, .null | _, .bool _ | _, .num _ | _, .str _ | _, .arr [] | _, .obj [] => by simp only [writeAt]
  | level, .arr (v :: rest) => by simp [print, writeAt, Layout.tight, print_eq (level + 1) v, printItems_eq level rest]
  | level, .obj ((k, v) :: rest) => by simp [print, writeAt, Layout.tight, print_eq (level + 1) v, printFields_eq level rest]

theorem printItems_eq : ∀ (level : Nat) (vs : List Json), printItems vs = writeItems .tight level vs
  | _, [] => rfl
  | level, v :: rest => by simp [printItems, writeItems, Layout.tight, print_eq (level + 1) v, printItems_eq level rest]

theorem printFields_eq : ∀ (level : Nat) (fs : List (String × Json)), printFields fs = writeFields .tight level fs
  | _, [] => rfl
  | level, (k, v) :: rest => by simp [printFields, writeFields, Layout.tight, print_eq (level + 1) v, printFields_eq level rest]

end

mutual

theorem prettyAt_eq : ∀ (level : Nat) (v : Json), prettyAt level v = writeAt .indented level v
  | _, .null | _, .bool _ | _, .num _ | _, .str _ | _, .arr [] | _, .obj [] => by simp only [writeAt, prettyAt]
  | level, .arr (v :: rest) => by simp [prettyAt, writeAt, Layout.indented, prettyAt_eq (level + 1) v, prettyItems_eq level rest]
  | level, .obj ((k, v) :: rest) => by simp [prettyAt, writeAt, Layout.indented, prettyAt_eq (level + 1) v, prettyFields_eq level rest]

theorem prettyItems_eq : ∀ (level : Nat) (vs : List Json), prettyItems level vs = writeItems .indented level vs
  | _, [] => rfl
  | level, v :: rest => by simp [prettyItems, writeItems, Layout.indented, prettyAt_eq (level + 1) v, prettyItems_eq level rest]

theorem prettyFields_eq : ∀ (level : Nat) (fs : List (String × Json)), prettyFields level fs = writeFields .indented level fs
  | _, [] => rfl
  | level, (k, v) :: rest => by
    simp [prettyFields, writeFields, Layout.indented, prettyAt_eq (level + 1) v, prettyFields_eq level rest]

end

end Colloquy.Json
