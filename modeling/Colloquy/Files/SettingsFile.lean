import Colloquy.Files.Tree
import Colloquy.Settings

/-!
# Settings in a file

Settings are saved as a JSON text with one item or field on a line. A file that is not there loads as the default
settings.
-/

namespace Colloquy.Settings

/-- Loads settings. -/
def load (files : FileTree) (path : String) : Except Error Settings :=
  if files.holds path then
    match files.read path with
    | .error e => .error (.io e)
    | .ok bytes =>
      match Utf8.decode? bytes with
      | none => .error (.io .invalidUtf8)
      | some text => ofText (String.ofList text)
  else .ok default

/-- Saves settings, making the directories that lead to the file; these stay even if the file cannot be written. -/
def save (files : FileTree) (path : String) (s : Settings) : Except Error Unit × FileTree :=
  match files.makeParents path with
  | (.error e, files) => (.error (.io e), files)
  | (.ok (), files) =>
    match files.write path (Utf8.encode s.toJson.pretty) with
    | .error e => (.error (.io e), files)
    | .ok files => (.ok (), files)

end Colloquy.Settings
