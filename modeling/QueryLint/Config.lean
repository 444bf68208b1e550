import QueryLint.Json.Decode
import QueryLint.Text.Case

/-!
Which detectors run. A detector runs unless everything is switched off or its code is listed, in
whatever case the letters of the listed code are.
-/

namespace QueryLint

structure Config where
  enabled : Bool := true
  disabled : List String := []
deriving DecidableEq, Repr

namespace Config

def isEnabled (config : Config) (code : String) : Bool :=
  config.enabled && !config.disabled.any fun listed => Text.eqIgnoringAsciiCase listed code

def shape : Json.Shape :=
  ⟨"DetectorConfig",
    [⟨"enabled", false, Json.fault? Json.decodeBool⟩,
     ⟨"disabledDetectors", false, Json.fault? (Json.decodeList Json.decodeString)⟩]⟩

def ofJson (value : Json) : Except Json.DecodeError Config := do
  let given ← shape.read value
  let enabled ← Json.defaulted given "enabled" Json.decodeBool true
  let disabled ← Json.defaulted given "disabledDetectors" (Json.decodeList Json.decodeString) []
  return { enabled, disabled }

/-- An empty list of codes is left out. -/
def toJson (config : Config) : Json :=
  .object <| ("enabled", .bool config.enabled) ::
    if config.disabled.isEmpty then []
    else [("disabledDetectors", Json.strings config.disabled)]

end Config

end QueryLint
