import CodeGauge.Rule.Basic
import CodeGauge.Text.Blank
import CodeGauge.Text.Case
import CodeGauge.Text.Quoted

/-!
The settings of an analysis, and how they are read from environment variables.
-/
namespace CodeGauge

/-- Which analyses are made. -/
structure AnalysisOptions where
  complexity : Bool := true
  performance : Bool := true
  security : Bool := true
deriving Repr, DecidableEq

inductive LogLevel where
  | critical
  | error
  | warning
  | info
  | debug
deriving Repr, DecidableEq

namespace LogLevel

def all : List LogLevel := [critical, error, warning, info, debug]

def label : LogLevel → Text
  | critical => "CRITICAL"
  | error => "ERROR"
  | warning => "WARNING"
  | info => "INFO"
  | debug => "DEBUG"

/-- The weight of a level; messages below it are not logged. -/
def weight : LogLevel → Nat
  | critical => 50
  | error => 40
  | warning => 30
  | info => 20
  | debug => 10

end LogLevel

/-- Why settings are refused. -/
inductive ConfigError where
  | notABoolean (setting value : Text)
  | notAnInteger (setting value : Text)
  | unitSizeNotPositive (size : Int)
  | unknownLogLevel (value : Text)
deriving Repr, DecidableEq

def trueWords : List Text := ["1", "true", "yes", "on"]

def falseWords : List Text := ["0", "false", "no", "off"]

def ConfigError.message : ConfigError → Text
  | notABoolean setting value =>
    setting ++ (" must be one of " : Text) ++ Text.quotedTuple (trueWords ++ falseWords) ++
      (", got " : Text) ++ value.quoted
  | notAnInteger setting value =>
    setting ++ (" must be an integer, got " : Text) ++ value.quoted
  | unitSizeNotPositive size =>
    ("max_unit_size must be positive, got " : Text) ++ Text.ofInt size
  | unknownLogLevel value =>
    ("log_level must be one of " : Text) ++ Text.quotedTuple (LogLevel.all.map LogLevel.label) ++
      (", got " : Text) ++ value.quoted

/-- Reads a boolean in any case, with blanks around it. -/
def parseBool (setting value : Text) : Except ConfigError Bool :=
  let word := value.trim.lower
  if trueWords.contains word then .ok true
  else if falseWords.contains word then .ok false
  else .error (.notABoolean setting value)

/-- Reads a log level in any case. -/
def LogLevel.parse (value : Text) : Except ConfigError LogLevel :=
  match all.find? (·.label = value.upper) with
  | some level => .ok level
  | none => .error (.unknownLogLevel value.upper)

structure AnalyzerConfig where
  /-- Rules skip units with more characters than this. -/
  maxUnitSize : Int := defaultMaxUnitSize
  options : AnalysisOptions := {}
  logLevel : LogLevel := .warning
deriving Repr, DecidableEq

/-- The values of environment variables by name. -/
abbrev Environment := List (Text × Text)

/-! The names of the environment variables. -/
namespace Setting

def maxUnitSize : Text := "CODE_HINTS_MAX_UNIT_SIZE"

def complexity : Text := "CODE_HINTS_COMPLEXITY"

def performance : Text := "CODE_HINTS_PERFORMANCE"

def security : Text := "CODE_HINTS_SECURITY"

def logLevel : Text := "CODE_HINTS_LOG_LEVEL"

def all : List Text := [maxUnitSize, complexity, performance, security, logLevel]

end Setting

namespace AnalyzerConfig

/-- Checks the unit size first and the log level after it. -/
def validated (maxUnitSize : Int) (options : AnalysisOptions) (logLevel : Text) :
    Except ConfigError AnalyzerConfig := do
  if maxUnitSize ≤ 0 then throw (.unitSizeNotPositive maxUnitSize)
  let level ← LogLevel.parse logLevel
  return { maxUnitSize, options, logLevel := level }

def defaultLogLevel : Text := LogLevel.warning.label

/-- The unit size that the environment gives. -/
def sizeFrom (env : Environment) : Except ConfigError Int :=
  match env.lookup Setting.maxUnitSize with
  | none => .ok defaultMaxUnitSize
  | some value =>
    match Numeral.parse value with
    | .ok size => .ok size
    | .error _ => .error (.notAnInteger Setting.maxUnitSize value)

/-- A toggle of the environment, on unless it is switched off. -/
def toggleFrom (env : Environment) (setting : Text) : Except ConfigError Bool :=
  match env.lookup setting with
  | none => .ok true
  | some value => parseBool setting value

/-- The settings that environment variables give; what they leave out has its default. -/
def ofEnvironment (env : Environment) : Except ConfigError AnalyzerConfig := do
  let size ← sizeFrom env
  let complexity ← toggleFrom env Setting.complexity
  let performance ← toggleFrom env Setting.performance
  let security ← toggleFrom env Setting.security
  validated size { complexity, performance, security }
    ((env.lookup Setting.logLevel).getD defaultLogLevel)

end AnalyzerConfig

end CodeGauge
