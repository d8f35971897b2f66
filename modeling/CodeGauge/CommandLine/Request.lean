import CodeGauge.CommandLine.Arguments
import CodeGauge.Language
import CodeGauge.Path

/-!
What is to be analysed, and how: the arguments of the command line together with the settings of the
environment.
-/
namespace CodeGauge.CommandLine

structure Request where
  path : Path
  /-- Empty when the file extension has to tell it. -/
  givenLanguage : Text
  line : Option Int
  column : Int
  json : Bool
  maxUnitSize : Int
  options : AnalysisOptions
deriving Repr

namespace Request

/-- The analyses chosen by both. -/
def both (a b : AnalysisOptions) : AnalysisOptions where
  complexity := a.complexity && b.complexity
  performance := a.performance && b.performance
  security := a.security && b.security

/-- The request of a command line. The arguments are checked before the environment, and the line
after it. -/
def ofTexts (env : Environment) (texts : List Text) : Except Halt Request := do
  let arguments ← Arguments.ofTexts texts
  match arguments.path with
  | none => throw (.misuse .pathMissing)
  | some path =>
    if !arguments.unrecognized.isEmpty then
      throw (.misuse (.unrecognized arguments.unrecognized))
    match AnalyzerConfig.ofEnvironment env with
    | .error e => throw (.misuse (.badSetting e))
    | .ok config =>
      if arguments.line.any (· < 1) then throw (.misuse .lineNotPositive)
      return {
        path := .ofText path
        givenLanguage := arguments.language
        line := arguments.line
        column := arguments.column
        json := arguments.json
        maxUnitSize := config.maxUnitSize
        options := both config.options arguments.options }

/-- The given language, or else the one of the file extension. -/
def language? (r : Request) : Option Text :=
  if r.givenLanguage.isEmpty then Language.ofExtension? r.path.extension
  else some r.givenLanguage

end Request

end CodeGauge.CommandLine
