import DpllWatch.Files.Path
import DpllWatch.Files.Tree
import DpllWatch.SerialNumber

/-! The clock id of an interface, taken from its device's serial number. -/

namespace DpllWatch.ClockId

inductive Error where
  | unreadable (path : String) (cause : FileError)
  | noSerialNumber (interface : String) (cause : SerialNumber.Error)
deriving DecidableEq, Repr

namespace Error

def layers : Error → List String
  | unreadable path cause => ["read " ++ path, cause.message]
  | noSerialNumber interface cause =>
    ["no device serial number for " ++ interface, cause.message]

end Error

def configPath (root interface : String) : String :=
  Path.join (Path.join (Path.join root interface) "device") "config"

def ofDevice (files : FileTree) (root interface : String) : Except Error UInt64 :=
  let path := configPath root interface
  match files.read path with
  | .error e => .error (.unreadable path e)
  | .ok config =>
    match SerialNumber.read config with
    | .error e => .error (.noSerialNumber interface e)
    | .ok id => .ok id

end DpllWatch.ClockId
