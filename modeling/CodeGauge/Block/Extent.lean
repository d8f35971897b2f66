import CodeGauge.Block.Header

/-!
How far the function behind a header extends: to a closing brace, over an indented part, or to the
end of the line.
-/
namespace CodeGauge

/-- The shortest beginning of the text that closes `depth` open braces. -/
def closeBraces (depth : Nat) : Text → Option Text
  | [] => none
  | c :: rest =>
    if c = '\x7d' ∧ depth ≤ 1 then some [c]
    else
      let depth := if c = '\x7b' then depth + 1 else if c = '\x7d' then depth - 1 else depth
      match closeBraces depth rest with
      | some body => some (c :: body)
      | none => none

/-- The block in braces at the beginning of the text, when it is closed. -/
def bracedBlock? : Text → Option Text
  | [] => none
  | c :: rest =>
    if c = '\x7b' then
      match closeBraces 1 rest with
      | some body => some (c :: body)
      | none => none
    else none

namespace Text

/-- The first line. -/
def firstLine (text : Text) : Text :=
  text.takeWhile (· != '\n')

/-- The number of blanks at the beginning. -/
def indentation (text : Text) : Nat :=
  (text.takeWhile isBlank).length

/-- Whether a comment or nothing follows on the line. -/
def isLineRestEmpty (text : Text) : Bool :=
  let rest := Text.trim text.firstLine
  rest.isEmpty || rest.head? = some '#'

end Text

/-- The lines that belong to a header indented by `base`: blank lines, deeper lines, and an `end` at
the indentation of the header. -/
def indentedLines (base : Nat) : List Text → List Text
  | [] => []
  | line :: rest =>
    if line.isAllBlank || base < line.indentation then line :: indentedLines base rest
    else if line.indentation = base &&
        ("end" ++ Pattern.border : Pattern).matchesAt (.first line.trim) then [line]
    else []

/-- The header line and the lines that belong to it, without blank lines at the end. -/
def indentedBlock (text : Text) : Text :=
  let (header, others) := Text.cut '\n' text
  let body := indentedLines header.indentation others
  Text.join ['\n'] (header :: (body.reverse.dropWhile Text.isAllBlank).reverse)

/-- What follows a header. -/
inductive Body where
  /-- A block that opens with the brace at a place. -/
  | braced (brace : Cursor)
  /-- The deeper lines. -/
  | indented
  /-- An expression on the same line. -/
  | expression
  /-- A declaration only. -/
  | absent
deriving Repr, DecidableEq

namespace Body

/-- Reads on from a keyword header until something tells which kind of body follows; `depth`
brackets are open. -/
def scan (depth : Nat) : (behind ahead : Text) → Body
  | _, [] => expression
  | behind, c :: rest =>
    if c = '(' || c = '[' then scan (depth + 1) (c :: behind) rest
    else if c = ')' || c = ']' then scan (depth - 1) (c :: behind) rest
    else if depth ≠ 0 then scan depth (c :: behind) rest
    else if c = '\x7b' then braced ⟨behind, c :: rest⟩
    else if c = ';' then absent
    else if c = '=' && !Cursor.isBefore (isOneOf "=>") ⟨behind, rest⟩ &&
        !Cursor.isAfter (isOneOf "=!<>") ⟨behind, rest⟩ then expression
    else if c = ':' && Text.isLineRestEmpty rest then indented
    else if c = '\n' && (Text.trimStart rest).head? ≠ some '\x7b' then indented
    else scan depth (c :: behind) rest

/-- The body that follows a header of the given shape. -/
def ofHeader (shape : HeaderShape) (m : Match) : Body :=
  match shape with
  | .keyword => scan 0 m.stop.behind m.stop.ahead
  | .arrow =>
    let spaces := m.stop.ahead.takeWhile isIndent
    let rest := m.stop.ahead.dropWhile isIndent
    if rest.head? = some '\x7b' then braced ⟨spaces.reverse ++ m.stop.behind, rest⟩
    else expression
  | .method =>
    match m.stop.behind with
    | brace :: behind => braced ⟨behind, brace :: m.stop.ahead⟩
    | [] => absent

/-- The text from the start of a header to the end of its body; none when a brace stays open or
there is no body. -/
def extent? (start : Cursor) : Body → Option Text
  | braced brace =>
    match bracedBlock? brace.ahead with
    | some block => some (start.upTo brace ++ block)
    | none => none
  | indented => some (indentedBlock start.ahead)
  | expression => some start.ahead.firstLine
  | absent => none

end Body

end CodeGauge
