import NotePlot.Settings.Coercion
import NotePlot.Category.Parts
import NotePlot.Clause.Reading
import NotePlot.Plot.Running
import NotePlot.Timeline.Bars
/-! Settings: what a file and the environment decide for all charts. -/
namespace NotePlot

inductive SettingKey
  | defaultPaths
  | defaultBlockMinutes
  | missingLabel
  | explodeChartTypes
  | transformChartTypes
  | dateFieldNames
  | dateFieldSuffixes
  | logLevel
deriving DecidableEq

namespace SettingKey

def all : List SettingKey :=
  [defaultPaths, defaultBlockMinutes, missingLabel, explodeChartTypes, transformChartTypes,
    dateFieldNames, dateFieldSuffixes, logLevel]

/-- The key of a setting in a file. -/
def name : SettingKey → String
  | defaultPaths => "default_paths"
  | defaultBlockMinutes => "default_block_minutes"
  | missingLabel => "missing_label"
  | explodeChartTypes => "explode_chart_types"
  | transformChartTypes => "transform_chart_types"
  | dateFieldNames => "date_field_names"
  | dateFieldSuffixes => "date_field_suffixes"
  | logLevel => "log_level"

def ofName? (s : String) : Option SettingKey := all.find? (·.name = s)

/-- The key that a value names. -/
def ofScalar? : Scalar → Option SettingKey
  | .text s => ofName? s
  | _ => none

def kind : SettingKey → SettingKind
  | defaultBlockMinutes => .integer
  | missingLabel | logLevel => .text
  | defaultPaths | explodeChartTypes | transformChartTypes | dateFieldNames
  | dateFieldSuffixes => .list

/-- The variable of the environment that overrides a setting. -/
def override? : SettingKey → Option String
  | defaultPaths => some "NOTE_CHARTS_DEFAULT_PATHS"
  | defaultBlockMinutes => some "NOTE_CHARTS_DEFAULT_BLOCK_MINUTES"
  | missingLabel => some "NOTE_CHARTS_MISSING_LABEL"
  | logLevel => some "NOTE_CHARTS_LOG_LEVEL"
  | explodeChartTypes | transformChartTypes | dateFieldNames | dateFieldSuffixes => none

/-- A setting without which no chart can be drawn; a value that does not fit is a failure there, and
is left out with a warning elsewhere. -/
def isCritical (key : SettingKey) : Bool := key = defaultBlockMinutes

def usual : SettingKey → Value
  | defaultPaths => .list []
  | defaultBlockMinutes => usualBlock
  | missingLabel => .text Category.usualMissing
  | explodeChartTypes => .texts Category.usualTypes
  | transformChartTypes => .texts Window.usualTypes
  | dateFieldNames => .texts DateFields.usual.names
  | dateFieldSuffixes => .texts DateFields.usual.suffixes
  | logLevel => .text "INFO"

end SettingKey

/-- A value for each setting. -/
abbrev Settings := SettingKey → Value

namespace Settings

def usual : Settings := SettingKey.usual

def set (s : Settings) (key : SettingKey) (v : Value) : Settings :=
  fun k => if k = key then v else s k

theorem set_same (s : Settings) (key : SettingKey) (v : Value) : s.set key v key = v := by
  simp [set]

theorem set_other (s : Settings) {key k : SettingKey} (v : Value) (h : k ≠ key) :
    s.set key v k = s k := by
  simp [set, h]

def toValue (s : Settings) : Value :=
  .ofFields (SettingKey.all.map fun key => (key.name, s key))

end Settings
end NotePlot
