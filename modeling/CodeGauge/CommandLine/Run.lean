import CodeGauge.Analysis
import CodeGauge.CommandLine.ReadFault
import CodeGauge.CommandLine.Request
import CodeGauge.Label
import CodeGauge.Locate

/-!
The run of the program: from the words of its command line to what it prints. The only thing that it
asks of the outside is the content of one file.
-/
namespace CodeGauge.CommandLine

/-- The end of a run. -/
structure Outcome where
  exitCode : Nat
  output : Text := []
  errors : Text := []
deriving Repr, DecidableEq

/-- A text on a line of its own. -/
def lineOf (text : Text) : Text :=
  text ++ ['\n']

def programName : Text := "code-hints"

/-- How the program is called. -/
def usage : Text :=
  lineOf (("usage: " : Text) ++ programName ++ (" [switches] path" : Text)) ++
    Switch.all.flatMap fun s =>
      lineOf (("  " : Text) ++ Text.join ", " s.names ++ ("  " : Text) ++ s.summary)

def Halt.outcome : Halt → Outcome
  | helpAsked => { exitCode := 0, output := usage }
  | misuse m =>
    { exitCode := 2
      errors := usage ++ lineOf (programName ++ (": error: " : Text) ++ m.message) }

/-- A run that fails with a message. -/
def failing (message : Text) : Outcome where
  exitCode := 1
  errors := lineOf message

namespace Request

/-- The text of a file with its line endings folded. -/
def sourceOf : Except FileFault (List UInt8) → Except ReadFault Text
  | .error fault => .error (.file fault)
  | .ok bytes =>
    match Utf8.decode bytes with
    | .error e => .error (.encoding e)
    | .ok text => .ok text.foldLineEndings

/-- The units at the asked line, or all of them. -/
def units (r : Request) (frontEnds : FrontEndRegistry) (source language : Text) : List CodeUnit :=
  match r.line with
  | some line => (CodeUnit.locate frontEnds source language line r.column).toList
  | none => CodeUnit.locateAll frontEnds source language

/-- Where no unit was found. -/
def place (r : Request) : Text :=
  match r.line with
  | some line => ("line " : Text) ++ Text.ofInt line
  | none => "file"

/-- Reports as one JSON array, or as the identifier of each unit with its labels below. -/
def print (r : Request) (reports : List Report) : Text :=
  if r.json then lineOf (Json.render 0 (.array (reports.map Report.toJson)))
  else
    reports.flatMap fun report =>
      lineOf report.unitId ++ report.labels.flatMap fun label => lineOf (("  " : Text) ++ label)

/-- Answers a request about a source in a known language. -/
def answer (r : Request) (frontEnds : FrontEndRegistry) (language : Text)
    (contents : Except FileFault (List UInt8)) : Outcome :=
  match sourceOf contents with
  | .error fault =>
    failing (("Error: cannot read " : Text) ++ r.path.toText ++ (": " : Text) ++
      fault.message r.path)
  | .ok source =>
    let units := r.units frontEnds source language
    if units.isEmpty then
      failing (("No function found at " : Text) ++ r.place ++ (" in " : Text) ++ r.path.toText)
    else
      let reports := units.map fun u => u.analyze RuleRegistry.builtIn r.maxUnitSize r.options
      { exitCode := 0, output := r.print reports }

end Request

/-- Runs the program. The file is read only when its language is known. -/
def run {m : Type → Type} [Monad m] (frontEnds : FrontEndRegistry)
    (read : Path → m (Except FileFault (List UInt8))) (env : Environment) (words : List Text) :
    m Outcome :=
  match Request.ofTexts env words with
  | .error halt => pure halt.outcome
  | .ok request =>
    match request.language? with
    | none =>
      pure (failing (("Error: cannot determine language of " : Text) ++ request.path.toText ++
        ("; use --language" : Text)))
    | some language => do
      let contents ← read request.path
      return request.answer frontEnds language contents

end CodeGauge.CommandLine
