import Agenda.Settings
import Agenda.Yaml.Content

/-!
# Loading settings

Settings are loaded once and then kept: until they are loaded anew, every further request gives the
settings kept, whatever file it names. A missing file means the defaults, and so does, with a
warning, a file that makes no settings.
-/

namespace Agenda

/-- The settings of a file with the given content. -/
def Settings.ofContent (home : Text) (path : Path) (content : Except FileFault ByteArray) :
    Except Yaml.ContentFault (Settings × List SettingsWarning) :=
  let refused := .ok (defaults home, [.badSettings path])
  match content with
  | .error .missing | .error .notDirectory => .ok (defaults home, [])
  | .error .nameTooLong => .error .nameTooLong
  | .error _ => refused
  | .ok bytes =>
    match textOfBytes bytes with
    | .error _ => .error .notText
    | .ok document =>
      match ofText home document with
      | .ok result => .ok result
      | .error (.unreadable .impossible) | .error (.impossibleUser _) => .error .impossible
      | .error _ => refused

/-- The settings kept, if any were loaded. -/
structure SettingsLoader where
  /-- The settings kept. -/
  kept : Option Settings

namespace SettingsLoader

/-- A loader that has loaded nothing. -/
def empty : SettingsLoader := ⟨none⟩

variable {m : Type → Type} [Monad m] [FileAccess m]

/-- The file asked for, or where the default settings are kept. -/
def pathOr (home : Text) (path : Option Path) : Path := path.getD (Settings.defaults home).path

/-- The settings kept, or those of a file. -/
def load (home : Text) (path : Option Path) (loader : SettingsLoader) :
    m (Except Yaml.ContentFault (Settings × List SettingsWarning) × SettingsLoader) := do
  match loader.kept with
  | some settings => return (.ok (settings, []), loader)
  | none =>
    let path := pathOr home path
    match Settings.ofContent home path (← FileAccess.read path) with
    | .ok (settings, warnings) => return (.ok (settings, warnings), ⟨some settings⟩)
    | .error fault => return (.error fault, loader)

/-- The settings of a file, whatever was kept. -/
def reload (home : Text) (path : Option Path) :
    m (Except Yaml.ContentFault (Settings × List SettingsWarning) × SettingsLoader) :=
  load home path empty

/-- The settings kept, or those of the default file. -/
def get (home : Text) (loader : SettingsLoader) :
    m (Except Yaml.ContentFault (Settings × List SettingsWarning) × SettingsLoader) :=
  load home none loader

end SettingsLoader

/-- Writes settings to a file, or where they are kept. -/
def Settings.save {m : Type → Type} [FileAccess m] (s : Settings) (path : Option Path) :
    m (Except FileFault Unit) :=
  FileAccess.write (path.getD s.path) (bytesOfText s.toText)

end Agenda
