import CodeGauge.Lexicon.Java
import CodeGauge.Lexicon.JavaScript
import CodeGauge.Lexicon.Kotlin
import CodeGauge.Lexicon.Python

/-!
The languages that have a lexicon.
-/
namespace CodeGauge.Lexicon

def all : List Lexicon :=
  [java, kotlin, python, javascript, typescript]

/-- The lexicon of exactly this language. -/
def ofLanguage? (language : Text) : Option Lexicon :=
  all.find? (·.language = language)

end CodeGauge.Lexicon
