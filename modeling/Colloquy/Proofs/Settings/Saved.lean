import Colloquy.Files.SettingsFile
import Colloquy.Proofs.Files.Written
import Colloquy.Proofs.Settings.Text
import Colloquy.Proofs.Text.Utf8

/-!
# Settings in a file

Settings are the same after they were written and read again, as a text in either layout and in a file (`settings_survive_saving`).
-/

namespace Colloquy

namespace Settings

variable {s : Settings}

/-- Settings that were saved are loaded as what they were. -/
theorem load_of_save (h : s.Fits) {files files' : FileTree} {path : String} (hsave : save files path s = (.ok (), files')) :
    load files' path = .ok s := by
  unfold save at hsave
  split at hsave
  · cases hsave
  next made _ =>
  split at hsave
  · cases hsave
  next written hwrite =>
    cases hsave
    obtain ⟨hholds, hread⟩ := FileTree.read_of_write hwrite
    have htext : ofText (String.ofList s.toJson.pretty) = .ok s := ofText_of_value h (Json.all_pretty (exact_toJson h))
    rw [load, if_pos hholds, hread]
    dsimp only
    rw [Utf8.decode?_encode]
    exact htext

end Settings

open Settings

/-- Settings whose numbers have 32 and 64 bits are read from their text as what they were, whether it is written without spaces or with
one item or field on a line; and wherever they are saved, what is loaded from there are the same settings. -/
theorem settings_survive_saving (s : Settings) (h : s.Fits) :
    ofText s.toJson.compact = .ok s ∧ ofText (String.ofList s.toJson.pretty) = .ok s ∧
      ∀ files path files', save files path s = (.ok (), files') → load files' path = .ok s := by
  have hexact := exact_toJson h
  refine ⟨ofText_of_value h (Json.all_print hexact), ofText_of_value h (Json.all_pretty hexact), ?_⟩
  intro files path files' hsave
  exact load_of_save h hsave

/-- Settings with texts that must be escaped, empty ones, one that is left out, and the largest numbers. -/
def awkwardSettings : Settings :=
  ⟨[{ name := "\"\\/\n\x00\x7f", provider := .anthropic, model := "😀", apiKey := "\\u0000", baseUrl := some "",
      maxTokens := some 0xFFFFFFFF }, { name := "", provider := .echo }], 0xFFFFFFFFFFFFFFFF⟩

/-- They come back from a file in a directory that was not there. -/
theorem awkwardSettings_survive :
    awkwardSettings.Fits ∧ ofText awkwardSettings.toJson.compact = .ok awkwardSettings ∧
      ∃ files, save .fresh "conf/chat.json" awkwardSettings = (.ok (), files) ∧ load files "conf/chat.json" = .ok awkwardSettings := by
  have hfits : awkwardSettings.Fits := by decide
  obtain ⟨hcompact, -, hfiles⟩ := settings_survive_saving awkwardSettings hfits
  refine ⟨hfits, hcompact, ?_⟩
  have hok : (save .fresh "conf/chat.json" awkwardSettings).1.isOk = true := by decide +kernel
  cases hsave : save .fresh "conf/chat.json" awkwardSettings with
  | mk result files =>
    rw [hsave] at hok
    cases result with
    | error e => cases hok
    | ok u => exact ⟨files, rfl, hfiles _ _ _ hsave⟩

end Colloquy
