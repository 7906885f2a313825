import Almanac.Form.Settings

/-! # The settings file

The place where a site keeps its settings: a file in a directory of its own.  The state of
that place is a value, so that loading and saving are functions of it.  Without a file the
standard settings hold; a file with a fault is never loaded and never written.

Other programs use the place too: they write any bytes into the file, delete it, or make a
plain file where the directory would be.  `SettingsFile.run` carries out such steps one after
the other.
-/
namespace Almanac

/-- The state of the place of a settings file. -/
inductive SettingsFile where
  /-- There is no directory yet. -/
  | noDirectory
  /-- A plain file stands where the directory would be. -/
  | blocked
  /-- There is a directory, with a file in it or without. -/
  | directory (file : Option ByteArray)
  deriving Inhabited

/-- Why a settings file cannot be used. -/
inductive FileError where
  /-- The file cannot be read as text, or the directory cannot be made. -/
  | io
  /-- The document has an error. -/
  | document (error : DocumentError)
  deriving DecidableEq, Repr

namespace SettingsFile

/-- The bytes of the file, if there is one. -/
def bytes? : SettingsFile → Option ByteArray
  | directory file => file
  | _ => none

/-- The text of the file, if there is one and it is text. -/
def text? (f : SettingsFile) : Option String :=
  f.bytes?.bind String.fromUTF8?

/-- The settings of a file. -/
def load (zones : Zones) (f : SettingsFile) : Except FileError Settings :=
  match f.bytes? with
  | none => .ok {}
  | some bytes =>
    match String.fromUTF8? bytes with
    | none => .error .io
    | some text => (Settings.ofToml zones text).mapError .document

/-- Puts bytes into the file; the directory is made if need be. -/
def write (bytes : ByteArray) : SettingsFile → Except FileError SettingsFile
  | blocked => .error .io
  | _ => .ok (.directory (some bytes))

/-- Puts settings into the file. -/
def save (zones : Zones) (s : Settings) (f : SettingsFile) : Except FileError SettingsFile :=
  match s.fault? zones with
  | some fault => .error (.document (.invalid fault))
  | none => f.write s.toToml.toUTF8

/-- The place after the file is deleted. -/
def remove : SettingsFile → SettingsFile
  | directory _ => .directory none
  | f => f

/-- Makes a plain file in place of the directory, if there is no directory yet. -/
def block? : SettingsFile → Option SettingsFile
  | directory _ => none
  | _ => some .blocked

/-! ## Steps -/

/-- What is done at the place of a settings file. -/
inductive Step where
  | load
  | save (settings : Settings)
  /-- Any bytes are put into the file. -/
  | write (bytes : ByteArray)
  /-- The file is deleted. -/
  | remove
  /-- A plain file is made where the directory would be. -/
  | block

/-- What a step answers. -/
inductive Reply where
  | loaded (result : Except FileError Settings)
  /-- Whether something was put into the file. -/
  | stored (result : Except FileError Unit)
  /-- Whether there was a file. -/
  | removed (existed : Bool)
  /-- Whether there is a plain file now. -/
  | blocked (made : Bool)

/-- The reply to a step that puts something into the file; the place is as it was if it
cannot be done. -/
def stored (f : SettingsFile) : Except FileError SettingsFile → Reply × SettingsFile
  | .ok f => (.stored (.ok ()), f)
  | .error e => (.stored (.error e), f)

/-- The reply to a step, with the place after it. -/
def step (zones : Zones) (f : SettingsFile) : Step → Reply × SettingsFile
  | .load => (.loaded (f.load zones), f)
  | .save s => f.stored (f.save zones s)
  | .write bytes => f.stored (f.write bytes)
  | .remove => (.removed f.bytes?.isSome, f.remove)
  | .block =>
    match f.block? with
    | some f => (.blocked true, f)
    | none => (.blocked false, f)

/-- The replies to steps one after the other, with the place after them. -/
def run (zones : Zones) (f : SettingsFile) : List Step → List Reply × SettingsFile
  | [] => ([], f)
  | first :: rest =>
    let (reply, f) := f.step zones first
    let (replies, f) := run zones f rest
    (reply :: replies, f)

end SettingsFile
end Almanac
