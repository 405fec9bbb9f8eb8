import Multiplex.FileHost
import Multiplex.Settings.Text
import Multiplex.Toml.Document

/-!
# Settings files

Settings are loaded from a file and saved to one.  A file that does not show may be
taken for the defaults, for whatever reason it does not; a file that shows and cannot be
read or understood never is.

Saving first makes the text, then the folders on the way to the file, then writes
the file.  Folders that were made stay, also where the file could not be written, and so
does a file of which only a part was written.
-/

namespace Multiplex

/-- Why settings could not be loaded or saved. -/
inductive SettingsError
  | notFound (path : String)
  | malformed
  | unreadable (fault : FileFault)
  | noFolder (fault : FileFault)
  | unwritable (fault : FileFault)
  | zeroLimit (limit : ZeroLimit)
  | numberTooLarge
  deriving DecidableEq, Repr, Inhabited

/-- The wording of a settings error. -/
def SettingsError.message : SettingsError → String
  | .notFound path => "Config file not found: " ++ path
  | .malformed => "TOML parse error"
  | .unreadable fault => "Invalid config: Failed to read config: " ++ fault.message
  | .noFolder fault => "Invalid config: Failed to create config dir: " ++ fault.message
  | .unwritable fault => "Invalid config: Failed to write config: " ++ fault.message
  | .zeroLimit limit => "Invalid config: " ++ limit.message
  | .numberTooLarge => "TOML serialize error: out-of-range value for u64 type"

namespace Settings

/-! ## Loading -/

/-- Reads settings from the contents of a file. -/
def ofContents (contents : Octets) : Except SettingsError Settings :=
  match contents.toText? with
  | none => .error (.unreadable .notText)
  | some text =>
    match (Toml.parse text).bind Settings.ofToml? with
    | none => .error .malformed
    | some settings => .ok settings

/-- Loads settings from a file. -/
def load (host : FileHost) (tree : FileTree) (path : String) : Except SettingsError Settings :=
  match host.inspect? tree (.ofText path) with
  | none => .error (.notFound path)
  | some _ =>
    match host.read tree (.ofText path) with
    | .error fault => .error (.unreadable fault)
    | .ok contents => ofContents contents

/-- Loads settings from a file; if it is not found, takes the defaults. -/
def loadOrDefault (host : FileHost) (tree : FileTree) (path : String) :
    Except SettingsError Settings :=
  match load host tree path with
  | .error (.notFound _) => .ok {}
  | result => result

/-! ## Saving -/

/-- Saves settings to a file.  The tree is as the save leaves it, whether it fails or not. -/
def saveIn (settings : Settings) (host : FileHost) (tree : FileTree) (path : String) :
    FileTree × Except SettingsError Unit :=
  match settings.text? with
  | none => (tree, .error .numberTooLarge)
  | some text =>
    let path := FilePath.ofText path
    match host.makeWay tree path.folderSteps.reverse with
    | (made, .error fault) => (made, .error (.noFolder fault))
    | (made, .ok ()) =>
      let (changed, result) := host.write made (Octets.ofText text) path
      (changed, result.mapError .unwritable)

/-- Saves settings to a file, and gives the tree if the save succeeds. -/
def save (settings : Settings) (host : FileHost) (tree : FileTree) (path : String) :
    Except SettingsError FileTree :=
  match settings.saveIn host tree path with
  | (changed, .ok ()) => .ok changed
  | (_, .error error) => .error error

/-! ## Where the settings file is -/

/-- The settings file of a user: below the folder that the user names for settings,
if that is an absolute path, else below the user's own folder. -/
def defaultPath (home : String) (settingsFolder : Option String) : String :=
  let base := match settingsFolder with
    | some folder => if folder.startsWith "/" then folder else joinPath home ".config"
    | none => joinPath home ".config"
  joinPath (joinPath base "h2mux") "config.toml"

end Settings

end Multiplex
