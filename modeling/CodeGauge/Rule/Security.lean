import CodeGauge.Rule.Performance

/-!
The rules about safety, in the order of their priority.
-/
namespace CodeGauge

def sqlKeywords : List Text :=
  ["select ", "insert ", "update ", "delete ", "create ", "drop ", "alter ", "truncate "]

def containsSqlKeyword (text : Text) : Bool :=
  text.containsAny sqlKeywords

def credentialTokens : List Text :=
  ["password", "passwd", "pwd", "apikey", "api_key", "secret", "token", "credential", "auth",
    "private_key", "access_key"]

/-- Whether a variable of this name holds a credential. -/
def isCredentialName (name : Text) : Bool :=
  name.lower.containsAny credentialTokens

/-- Words that tell that random numbers have to be unpredictable. -/
def securityContextTokens : List Text :=
  ["token", "session", "password", "salt", "key", "nonce"]

namespace Lexicon

/-- SQL text that is put together from parts. A string literal has to contain the SQL keyword, so
that a name such as `updateUser` does not count. -/
def sqlInjection? (lex : Lexicon) (u : CodeUnit) : Option Issue :=
  let text := u.lowerText
  if containsSqlKeyword text && text.containsAny lex.concatMarkers &&
      u.stringLiterals.any (containsSqlKeyword ·.lower) then
    some (lex.issue .sqlInjection .critical .sqlInjection)
  else none

/-- A variable with the name of a credential that starts from a non-empty literal. -/
def hardcodedCredentials? (lex : Lexicon) (u : CodeUnit) : Option Issue :=
  if u.literalDeclarations.any fun (name, value) => !value.isEmpty && isCredentialName name then
    some (lex.issue .hardcodedCredentials .critical .hardcodedCredentials)
  else none

/-- A file path that is put together from parts and never validated. -/
def pathTraversal? (lex : Lexicon) (u : CodeUnit) : Option Issue :=
  let text := u.lowerText
  if text.containsAny lex.fileMarkers && text.containsAny lex.concatMarkers &&
      !text.containsAny lex.pathValidation then
    some (lex.issue .pathTraversal .high .pathTraversal)
  else none

/-- Predictable random numbers near a word such as `token`. -/
def insecureRandom? (lex : Lexicon) (u : CodeUnit) : Option Issue :=
  let text := u.lowerText
  if lex.randomPattern.foundIn text && text.containsAny securityContextTokens then
    some (lex.issue .insecureRandom .high .insecureRandom)
  else none

/-- A command that is put together from parts. -/
def commandInjection? (lex : Lexicon) (u : CodeUnit) : Option Issue :=
  let text := u.lowerText
  if text.containsAny lex.commandMarkers && text.containsAny lex.concatMarkers then
    some (lex.issue .commandInjection .critical .commandInjection)
  else none

/-- Request input that is joined into HTML output and never escaped. -/
def crossSiteScripting? (lex : Lexicon) (u : CodeUnit) : Option Issue :=
  let text := u.lowerText
  if text.containsAny lex.htmlOutput && text.containsAny lex.concatMarkers &&
      text.containsAny lex.externalInput && !text.containsAny lex.escapingMarkers then
    some (lex.issue .crossSiteScripting .high .crossSiteScripting)
  else none

def securityRules (lex : Lexicon) : List Rule :=
  [⟨"sql_injection", fun u => .ok (lex.sqlInjection? u)⟩,
    ⟨"hardcoded_credentials", fun u => .ok (lex.hardcodedCredentials? u)⟩,
    ⟨"path_traversal", fun u => .ok (lex.pathTraversal? u)⟩,
    ⟨"insecure_random", fun u => .ok (lex.insecureRandom? u)⟩,
    ⟨"command_injection", fun u => .ok (lex.commandInjection? u)⟩,
    ⟨"xss", fun u => .ok (lex.crossSiteScripting? u)⟩]

end Lexicon

end CodeGauge
