import DiagramBridge.Conversion.Options
import DiagramBridge.Number.Numeral
import DiagramBridge.Settings.EnvFile
import DiagramBridge.Text.Quoted

/-!
# Settings

Four settings come from variables. A variable that is not set or is empty leaves the default, save
that an empty host is a host. So does a variable that makes no sense, and then there is a warning.

Variables are set in the environment or in an environment file. The environment counts first, even
if it sets a variable to nothing.
-/

namespace DiagramBridge

open Text

/-- Where to serve, and the options that hold when none are given. -/
structure Settings where
  host : String := "0.0.0.0"
  port : Int := 8000
  direction : Direction := .td
  type : TypeChoice := .fixed .flowchart
  deriving DecidableEq, Repr

/-- A variable whose value makes no sense, and what holds in its place. -/
structure SettingWarning where
  name : String
  value : String
  default : String
  deriving DecidableEq, Repr

/-- What people are told. -/
def SettingWarning.text (w : SettingWarning) : String :=
  "  Warning: invalid " ++ w.name ++ "=" ++ onChars quoted w.value ++ ", using " ++ w.default

namespace Settings

/-- The variable that gives the host. -/
def hostName : String := "INTERCHANGE_HOST"

/-- The variable that gives the port. -/
def portName : String := "INTERCHANGE_PORT"

/-- The variable that gives the direction. -/
def directionName : String := "INTERCHANGE_DIRECTION"

/-- The variable that gives the diagram type. -/
def typeName : String := "INTERCHANGE_DIAGRAM_TYPE"

/-- The variables, in the order in which they are looked at. -/
def variableNames : List String := [hostName, portName, directionName, typeName]

/-- The settings that hold when no variable is set. -/
def default : Settings := {}

/-- The value of a variable, read by a given rule, or the default with a warning if it cannot be. -/
def readVariable {α : Type} (get : String → Option String) (name : String) (read : String → Option α)
    (default : α) (defaultText : String) : α × List SettingWarning :=
  match get name with
  | none | some "" => (default, [])
  | some value =>
    match read value with
    | some a => (a, [])
    | none => (default, [⟨name, value, defaultText⟩])

/-- The settings that variables give, with warnings. -/
def ofVariables (get : String → Option String) : Settings × List SettingWarning :=
  let host := (get hostName).getD default.host
  let port := readVariable get portName (fun s => Numeral.readInt? s.toList) default.port
    (String.ofList (decimalInt default.port))
  let direction := readVariable get directionName
    (fun s => Direction.ofName? (onChars upper s)) default.direction default.direction.name
  let type := readVariable get typeName
    (fun s => TypeChoice.ofName? (onChars lower s)) default.type default.type.name
  ({ host, port := port.1, direction := direction.1, type := type.1 },
    port.2 ++ direction.2 ++ type.2)

/-- The options that hold when none are given. -/
def options (s : Settings) : Options where
  direction := s.direction
  type := s.type

end Settings

/-- The settings of an environment and of the bindings of a file, with warnings. -/
def Settings.ofSources (environment : String → Option String) (bindings : List EnvFile.Binding) :
    Settings × List SettingWarning :=
  ofVariables fun name => (environment name).or (EnvFile.lookup? bindings name)

end DiagramBridge
