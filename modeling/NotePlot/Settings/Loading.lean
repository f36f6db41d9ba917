import NotePlot.Settings.Basic
import NotePlot.Yaml.Assembly
/-! Settings loaded from the text of a file, overridden by the environment, and checked. -/
namespace NotePlot

/-- What is reported about settings that are left out. -/
inductive SettingWarning
  | unknownKey (key file : String)
  | unfitValue (key shown wanted : String) (fault : SettingFault)

def SettingWarning.message : SettingWarning → String
  | unknownKey key file => "Unknown config key " ++ key ++ " in " ++ file ++ ", ignoring"
  | unfitValue key shown wanted fault =>
    "Failed to coerce YAML value " ++ key ++ "=" ++ shown ++ " to " ++ wanted ++ ": " ++
      fault.message ++ ", using default"

def SettingKind.name : SettingKind → String
  | integer => "int"
  | real => "float"
  | bool => "bool"
  | text => "str"
  | list => "list"
  | any => "object"

/-- Settings with the warnings that came up so far, the earliest first. -/
structure Loaded where
  settings : Settings
  warnings : List SettingWarning

namespace Loaded

def warn (l : Loaded) (w : SettingWarning) : Loaded := { l with warnings := l.warnings ++ [w] }

def set (l : Loaded) (key : SettingKey) (v : Value) : Loaded :=
  { l with settings := l.settings.set key v }

/-- Takes over an entry of a file. -/
def takeKnown (l : Loaded) (key : SettingKey) (v : Value) : Outcome Loaded :=
  match key.kind.coerce v with
  | .ok v => .ok (l.set key v)
  | .error (.setting fault) => do
    let shown ← v.display
    if key.isCritical then
      throw (.settings (.fileValue key.name shown key.kind.name v.kindName fault))
    return l.warn (.unfitValue key.name shown key.kind.name fault)
  | .error f => .error f

def takeEntry (file : String) (l : Loaded) (k : Scalar) (v : Value) : Outcome Loaded :=
  match SettingKey.ofScalar? k with
  | some key => l.takeKnown key v
  | none => do return l.warn (.unknownKey (← k.written Scalar.display) file)

def takeEntries (file : String) (l : Loaded) : List (Scalar × Value) → Outcome Loaded
  | [] => .ok l
  | (k, v) :: rest => do takeEntries file (← l.takeEntry file k v) rest

/-- The settings in the contents of a file; contents that are unset hold none. -/
def ofContents (file : String) (contents : Value) : Outcome Loaded :=
  let start : Loaded := ⟨.usual, []⟩
  match contents.opened with
  | .map es => takeEntries file start es
  | _ => if contents.isSet then .error (.settings (.notMapping file)) else .ok start

end Loaded

/-- Variables with their values. -/
abbrev Environment := List (String × String)

namespace Settings

/-- A variable takes the kind of the value that it replaces, so that null is replaced by its text as
it is. -/
def overridden (s : Settings) (env : Environment) (key : SettingKey) : Outcome Value :=
  match key.override?.bind fun name => (List.lookup name env).map (name, ·) with
  | some (name, given) =>
    let kind := if (s key).isNull then .any else key.kind
    match kind.coerce (.text given) with
    | .error (.setting fault) => .error (.settings (.override name given kind.name fault))
    | r => r
  | none => .ok (s key)

def isPositive (v : Value) : Outcome Bool :=
  match v with
  | .scalar (.int n) => .ok (0 < n)
  | _ => .error .wrongKind

/-- Settings after the environment has overridden them. The keys are gone through in their order,
and at last the length of a block is checked. -/
def override (s : Settings) (env : Environment) : Outcome Settings := do
  let paths ← s.overridden env .defaultPaths
  let block ← s.overridden env .defaultBlockMinutes
  let missing ← s.overridden env .missingLabel
  let level ← s.overridden env .logLevel
  if !(← isPositive block) then
    throw (.settings (.blockNotPositive (← block.display)))
  return (((s.set .defaultPaths paths).set .defaultBlockMinutes block).set .missingLabel missing).set
    .logLevel level

variable (read : Yaml.Reader)

/-- The contents of a file with a name; where there is no file, there are none. -/
def contents (file : String) (text : Option String) : Outcome Value :=
  match text with
  | none => .ok .null
  | some s =>
    match read s with
    | .ok v => .ok v
    | .error .malformed => .error (.settings (.unreadable file))
    | .error (.failure f) => .error f

/-- The settings of a file and an environment, with the warnings about them. Without a file, the
usual settings hold. -/
def load (file : String) (text : Option String) (env : Environment) : Outcome Loaded := do
  let l ← Loaded.ofContents file (← contents read file text)
  return { l with settings := ← l.settings.override env }

end Settings
end NotePlot
