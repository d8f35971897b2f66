import CodeGauge.Pattern.Search

/-!
The lines that open a function: behind a keyword, as an arrow function with a name, or as a name
with parameters and a brace. A header begins at the start of its line.
-/
namespace CodeGauge

/-- The three shapes of headers. -/
inductive HeaderShape where
  | keyword
  | arrow
  | method
deriving Repr, DecidableEq

namespace HeaderShape

open Pattern

/-- A name that is captured. -/
def declaredName : Pattern :=
  capture .name (one isNameStart ++ many isNamePart)

/-- Words of the class, each followed by spaces, as few as possible. -/
def modifiers (accepts : Char → Bool) : Pattern :=
  star .shortest (many1 accepts ++ many1 isIndent)

/-- `fun`, `def` and their like, with type parameters or a receiver before the name. -/
def keywordHeader : Pattern :=
  lineStart ++ indent ++ modifiers (fun c => isWord c || isOneOf "@[]().,<>?*&" c) ++
    anyWord ["fun", "fn", "func", "def", "function", "sub"] ++ border ++ opt "*" ++ indent ++
    opt ("<" ++ many (isNoneOf ">\n") ++ ">" ++ indent) ++
    opt ("(" ++ many (isNoneOf ")\n") ++ ")" ++ indent) ++
    opt (many1 (fun c => isWord c || isOneOf "$.<>?" c) ++ ".") ++
    declaredName

/-- `const name = (parameters) =>` and `const name = async parameter =>`. -/
def arrowHeader : Pattern :=
  let typed := opt (":" ++ many1 (isNoneOf "=\n"))
  lineStart ++ indent ++ opt ("export" ++ many1 isIndent) ++ anyWord ["const", "let", "var"] ++
    many1 isIndent ++ declaredName ++ indent ++ typed ++ "=" ++ indent ++
    opt ("async" ++ many1 isIndent) ++
    Pattern.alt ("(" ++ many (isNoneOf ")\n") ++ ")") (one isNameStart ++ many isNamePart) ++
    indent ++ typed ++ "=>"

/-- `name(parameters) … {`, the brace included. -/
def methodHeader : Pattern :=
  lineStart ++ indent ++ modifiers (fun c => isNamePart c || isOneOf ":<>*&,[]@" c) ++
    capture .name (one (fun c => isNameStart c || c == '~') ++ many isNamePart) ++ indent ++
    opt ("<" ++ many (isNoneOf ">\n") ++ ">") ++ indent ++ "(" ++ many (· != ')') ++ ")" ++
    many (isNoneOf ";\x7b\n") ++ "\x7b"

def pattern : HeaderShape → Pattern
  | keyword => keywordHeader
  | arrow => arrowHeader
  | method => methodHeader

end HeaderShape

/-- Words that open a control structure and never name a function. -/
def controlKeywords : List Text :=
  ["if", "else", "elif", "elseif", "for", "foreach", "while", "do", "switch", "case", "catch",
    "try", "finally", "with", "return", "when", "match", "loop", "unless", "until",
    "synchronized", "using", "lock", "fixed", "function", "new", "sizeof"]

/-- Words before a name that tell it is called or is no function at all. -/
def nonDeclaringWords : List Text :=
  ["return", "await", "yield", "throw", "else", "new", "case", "go", "defer", "class", "object",
    "interface", "struct", "enum", "record", "impl", "trait", "extends", "implements"]

namespace Match

/-- The words of the match before the captured name. -/
def wordsBeforeName (m : Match) : List Text :=
  match m.capture? .name with
  | some name => (m.start.upTo name.start).fields
  | none => []

/-- What stands between the last closing parenthesis of the match and its final brace. -/
def afterParameters (m : Match) : Text :=
  Text.trim (m.text.afterLast ')').dropLast

/-- Tells a method from a call with a block behind it: words stand before the name, none of which
tells a call, or something stands between the parameters and the brace. -/
def declaresMethod (m : Match) : Bool :=
  !m.wordsBeforeName.any nonDeclaringWords.contains &&
    (!m.wordsBeforeName.isEmpty || !m.afterParameters.isEmpty)

end Match

end CodeGauge
