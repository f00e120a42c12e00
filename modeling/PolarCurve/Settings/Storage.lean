import PolarCurve.Settings
import PolarCurve.Store

namespace PolarCurve

inductive StorageFault
  | access (path : String) (fault : AccessFault)
  | malformed (path : String)
  | invalid (path : String) (fault : SettingsFault)
deriving DecidableEq

def StorageFault.message : StorageFault → String
  | access path fault => "cannot access settings file '" ++ path ++ "': " ++ fault.message
  | malformed path => "malformed settings file '" ++ path ++ "': no settings document"
  | invalid path fault => "invalid settings in '" ++ path ++ "': " ++ fault.message

namespace Settings

def fileText (s : Settings) : String := s.document ++ "\n"

def save (path : String) (s : Settings) (store : Store) : Except StorageFault Store :=
  match s.validate with
  | .error fault => .error (.invalid path fault)
  | .ok () =>
    match store.write path s.fileText.toUTF8 with
    | .error fault => .error (.access path fault)
    | .ok store => .ok store

def load (path : String) (store : Store) : Except StorageFault Settings :=
  match store.readText path with
  | .error fault => .error (.access path fault)
  | .ok text =>
    match ofDocument? text with
    | none => .error (.malformed path)
    | some s =>
      match s.validate with
      | .error fault => .error (.invalid path fault)
      | .ok () => .ok s

end Settings

end PolarCurve
