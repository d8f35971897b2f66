import CodeGauge.Text.Basic

/-!
The switches of the command line and the names by which they are called.
-/
namespace CodeGauge.CommandLine

inductive Switch where
  | help
  | line
  | column
  | language
  | json
  | noComplexity
  | noPerformance
  | noSecurity
  | verbose
deriving Repr, DecidableEq

namespace Switch

def all : List Switch :=
  [help, line, column, language, json, noComplexity, noPerformance, noSecurity, verbose]

/-- The names of a switch. Short names are a dash and one letter. -/
def names : Switch → List Text
  | help => ["-h", "--help"]
  | line => ["--line", "-l"]
  | column => ["--column", "-c"]
  | language => ["--language"]
  | json => ["--json"]
  | noComplexity => ["--no-complexity"]
  | noPerformance => ["--no-performance"]
  | noSecurity => ["--no-security"]
  | verbose => ["--verbose", "-v"]

/-- Whether a value belongs to the switch. -/
def takesValue : Switch → Bool
  | line | column | language => true
  | _ => false

def summary : Switch → Text
  | help => "show this message"
  | line => "the line, from 1 on, of the function to analyze; without it, every function"
  | column => "the column, from 0 on, in that line"
  | language => "the language, when the file extension does not tell it"
  | json => "print reports as JSON"
  | noComplexity => "skip the estimate of the complexity"
  | noPerformance => "skip the rules about performance"
  | noSecurity => "skip the rules about security"
  | verbose => "tell more about the progress"

/-- All names of a switch, as messages call it. -/
def label (s : Switch) : Text :=
  Text.join ['/'] s.names

/-- Every name with its switch. -/
def named : List (Text × Switch) :=
  all.flatMap fun s => s.names.map (·, s)

def ofName? (name : Text) : Option Switch :=
  named.lookup name

/-- The names that begin in a certain way. -/
def startingWith (start : Text) : List (Text × Switch) :=
  named.filter fun entry => start.isPrefixOf entry.1

end Switch

end CodeGauge.CommandLine
