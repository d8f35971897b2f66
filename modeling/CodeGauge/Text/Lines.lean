import CodeGauge.Text.Basic

/-!
Lines in the wide sense, where every line or paragraph separator ends a line, and the folding of
line endings that a text file undergoes when it is read.
-/
namespace CodeGauge

/-- The characters that end a line. -/
def isLineBreak (c : Char) : Bool :=
  let n := c.toNat
  (0xA ≤ n && n ≤ 0xD) || (0x1C ≤ n && n ≤ 0x1E) || n == 0x85 || n == 0x2028 || n == 0x2029

namespace Text

/-- The lines of a text whose first line continues the reversed `current`. -/
def linesFrom (current : Text) : Text → List Text
  | [] => if current.isEmpty then [] else [current.reverse]
  | '\r' :: '\n' :: rest => current.reverse :: linesFrom [] rest
  | c :: rest =>
    if isLineBreak c then current.reverse :: linesFrom [] rest else linesFrom (c :: current) rest

/-- The lines of a text without their breaks. A carriage return and a line feed together are one
break, and no empty line follows a break at the end of the text. -/
def lines (text : Text) : List Text :=
  linesFrom [] text

/-- Every line ending becomes a single line feed. -/
def foldLineEndings : Text → Text
  | [] => []
  | '\r' :: '\n' :: rest => '\n' :: foldLineEndings rest
  | c :: rest => (if c == '\r' then '\n' else c) :: foldLineEndings rest

end Text

end CodeGauge
