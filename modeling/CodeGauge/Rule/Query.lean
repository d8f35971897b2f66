import CodeGauge.Lexicon.Basic
import CodeGauge.Rule.Basic
import CodeGauge.Syntax.Walk

/-!
What the rules ask of a unit: its loops, its string literals, the declarations that start from a
literal, and the sizes of its allocations. With a tree the answers come from its nodes, without one
from the text.
-/
namespace CodeGauge

/-- The number of loops looked at, unless another one is given. -/
def defaultLoopLimit : Int := 20

namespace Lexicon

/-- Whether the rules take a node for a loop: a loop statement, or a call that runs a function over
a collection. -/
def iterates (lex : Lexicon) (n : SyntaxNode) : Bool :=
  n.isLoop || (n.kind = .call && lex.iterationCalls.contains n.name)

/-- Adds the lower-cased texts of the loops among the nodes to the texts found so far. Whether there
are enough is asked behind each find, so that the first loop is always found. -/
def addLoopTexts (lex : Lexicon) (limit : Int) (found : List Text) : List SyntaxNode → List Text
  | [] => found
  | n :: rest =>
    if lex.iterates n then
      let found := found ++ [n.text.lower]
      if limit ≤ found.length then found else lex.addLoopTexts limit found rest
    else lex.addLoopTexts limit found rest

/-- The lower-cased texts of the loops, at most `limit` of them, but always the first. Without a
tree all text from the first loop on is one loop. -/
def loopTexts (lex : Lexicon) (u : CodeUnit) (limit : Int := defaultLoopLimit) : List Text :=
  match u.tree with
  | some root => lex.addLoopTexts limit [] root.walk
  | none =>
    match lex.loopPattern.search? u.lowerText with
    | some m => [m.start.ahead]
    | none => []

end Lexicon

namespace Pattern

/-- What stands between two quotes: characters of the class, and escaped ones. -/
def quotedBody (isPlain : Char → Bool) : Pattern :=
  many isPlain ++ star .longest ("\\" ++ one (· != '\n') ++ many isPlain)

/-- A literal between two equal quotes. Only back quotes may enclose several lines. -/
def stringLiteral : Pattern :=
  anyOf
    ["\"" ++ quotedBody (isNoneOf "\"\\\n") ++ "\"",
      "'" ++ quotedBody (isNoneOf "'\\\n") ++ "'",
      "`" ++ quotedBody (isNoneOf "`\\") ++ "`"]

/-- A name, maybe a type, a single equals sign that is no part of a comparison, and a non-empty
literal on one line. No letter stands before the name: it would belong to it. -/
def literalAssignment : Pattern :=
  let literal (quote : Char) : Pattern :=
    .literal [quote] ++ capture .value (many1 fun c => c != quote && c != '\n') ++ .literal [quote]
  notAfter isNameStart ++ capture .name (one isNameStart ++ many isNamePart) ++ blanks ++
    opt (":" ++ span .shortest (isNoneOf "=\n")) ++ notAfter (isOneOf "=!<>") ++ "=" ++
    notBefore (· == '=') ++ blanks ++ anyOf [literal '"', literal '\'', literal '\x60']

end Pattern

namespace CodeUnit

/-- The number of string literals of a tree that are looked at. -/
def maxLiterals : Nat := 50

/-- The contents of literals, of which the first is number `index`. Whether it is one too many is
asked before each of them. -/
def literalsFrom (index : Nat) : List SyntaxNode → List Text
  | [] => []
  | n :: rest =>
    if maxLiterals ≤ index then [] else n.label.value.getD [] :: literalsFrom (index + 1) rest

/-- The contents of the string literals. -/
def stringLiterals (u : CodeUnit) : List Text :=
  match u.tree with
  | some root => literalsFrom 0 (root.findAll [.string])
  | none => (Pattern.stringLiteral.findAll u.text).map fun m => (m.text.drop 1).dropLast

/-- The names declared with a string literal, and the contents of the literals. -/
def literalDeclarations (u : CodeUnit) : List (Text × Text) :=
  match u.tree with
  | some root =>
    (root.findAll [.declaration]).filterMap fun n => n.label.value.map fun value => (n.name, value)
  | none =>
    (Pattern.literalAssignment.findAll u.text).map fun m => (m.part .name, m.part .value)

end CodeUnit

/-- The size that an allocation pattern captured. -/
def capturedSize (m : Match) : Except NumeralError Nat :=
  Numeral.parseNat ((m.part .size).filter (· != '_'))

/-- The largest size that one of the patterns captures in the text. -/
def maxSize (text : Text) (patterns : List Pattern) : Except NumeralError (Option Nat) := do
  let sizes ← (patterns.flatMap (·.findAll text)).mapM capturedSize
  return sizes.max?

end CodeGauge
