import PolarCurve.Settings

namespace PolarCurve

inductive Preset
  | gentle
  | chaotic
  | rainbow
  | blueGreen
deriving DecidableEq, Repr

namespace Preset

def all : List Preset := [gentle, chaotic, rainbow, blueGreen]

def name : Preset → String
  | gentle => "gentle"
  | chaotic => "chaotic"
  | rainbow => "rainbow"
  | blueGreen => "blueGreen"

def settings : Preset → Settings
  | gentle =>
    { Settings.default with xDrift := 2, yDrift := 2, velocity := ⟨0.3, 0.6, 90⟩ }
  | chaotic =>
    { Settings.default with xDrift := 20, yDrift := 20, velocity := ⟨2, 4, 90⟩ }
  | rainbow => { Settings.default with hueMin := 0, hueMax := 360 }
  | blueGreen => { Settings.default with hueMin := 120, hueMax := 240 }

def lowercase (name : List Char) : List Char := name.map Char.toLower

def ofName? (name : String) : Option Preset :=
  let key := lowercase (name.toList.filter fun c => c ≠ '-' && c ≠ '_')
  all.find? fun p => lowercase p.name.toList = key

def unknownMessage (name : String) : String :=
  "unknown preset \"" ++ name ++ "\" (expected one of: " ++ ", ".intercalate (all.map Preset.name) ++
    ")"

theorem ofName?_name (p : Preset) : ofName? p.name = some p := by
  cases p <;> decide

end Preset

end PolarCurve
