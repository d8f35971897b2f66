import CodeGauge.Text.Blank
import CodeGauge.Text.Case

/-!
Names of languages, and the languages of files.
-/
namespace CodeGauge.Language

/-- Other names of languages. -/
def aliases : List (Text × Text) :=
  [("python3", "python"), ("py", "python"), ("js", "javascript"), ("node", "javascript"),
    ("ts", "typescript"), ("kt", "kotlin"), ("c++", "cpp"), ("c#", "csharp"), ("cs", "csharp")]

/-- The one name by which a language is known, whatever the case and the blanks around it. -/
def normalize (language : Text) : Text :=
  let name := language.lower.trim
  (aliases.lookup name).getD name

def extensions : List (Text × Text) :=
  [(".py", "python"), (".pyw", "python"), (".js", "javascript"), (".jsx", "javascript"),
    (".mjs", "javascript"), (".ts", "typescript"), (".tsx", "typescript"), (".java", "java"),
    (".kt", "kotlin"), (".kts", "kotlin"), (".rb", "ruby"), (".go", "go"), (".rs", "rust"),
    (".cpp", "cpp"), (".cc", "cpp"), (".cxx", "cpp"), (".c", "c"), (".h", "c"),
    (".cs", "csharp"), (".php", "php"), (".swift", "swift"), (".scala", "scala"),
    (".lua", "lua")]

/-- The language that a file extension tells, in any case. -/
def ofExtension? (extension : Text) : Option Text :=
  extensions.lookup extension.lower

end CodeGauge.Language
