import CodeGauge.Grammar.Basic
import CodeGauge.Pattern.Search

/-!
Making a snippet fit to be parsed by itself: members are wrapped in a class, and a common margin is
removed.
-/
namespace CodeGauge

namespace Text

/-- The longest common beginning of two texts. -/
def commonStart : Text → Text → Text
  | a :: s, b :: t => if a = b then a :: commonStart s t else []
  | _, _ => []

/-- The spaces and tabs at the beginning of a line. -/
def margin (line : Text) : Text :=
  line.takeWhile isIndent

/-- The beginning that the margins of all lines share. -/
def commonMargin : List Text → Text
  | [] => []
  | [line] => margin line
  | line :: rest => commonStart (margin line) (commonMargin rest)

/-- The text without the margin that all its lines share. Lines of spaces and tabs only do not count
and become empty. -/
def dedent (text : Text) : Text :=
  let lines := (pieces '\n' text).map fun line => if line.all isIndent then [] else line
  let shared := commonMargin (lines.filter (!·.isEmpty))
  join ['\n'] (lines.map (·.drop shared.length))

end Text

namespace Grammar

open Pattern

/-- A type declaration with its annotations and modifiers, at the start of a line. -/
def typeDeclaration : Pattern :=
  lineStart ++ blanks ++ notBefore isBlank ++
    star .longest
      ("@" ++ many1 isWord ++ opt ("(" ++ many (· != ')') ++ ")") ++ blanks) ++
    star .longest
      (anyWord
          ["public", "private", "protected", "abstract", "final", "static", "sealed",
            "non-sealed", "strictfp"] ++
        many1 isBlank) ++
    anyWord ["class", "interface", "enum", "record", "@interface"] ++ border

/-- What is parsed for a snippet. Java members without a class get one of their own. -/
def prepare (g : Grammar) (text : Text) : Text :=
  match g with
  | java =>
    if typeDeclaration.foundIn text then text
    else
      ("class __CodeUnit__ \x7b\n" : Text) ++ text ++ ("\n\x7d" : Text)
  | javascript => text
  | python => text.dedent

/-- The number of lines that preparing a source puts in front of it. -/
def rowOffset (g : Grammar) (source : Text) : Nat :=
  match Text.beforeFirst? source (g.prepare source) with
  | some before => before.count '\n'
  | none => 0

end Grammar

end CodeGauge
