import CodeGauge.Text.Basic
import CodeGauge.Text.Property
import CodeGauge.Text.Table.Unprintable

/-!
Texts quoted in messages: between single quotes, or between double quotes when only single quotes
occur inside, with backslashes, the quote and unprintable characters escaped.
-/
namespace CodeGauge

/-- Whether a character is shown as itself in a quoted text. -/
def isPrintable (c : Char) : Bool :=
  let n := c.toNat
  if n < 0x80 then 0x20 ≤ n && n < 0x7F else !Text.Table.inRanges n Text.Table.unprintable

namespace Text

/-- The lowest `width` hexadecimal digits of a number. -/
def hex : (width : Nat) → Nat → Text
  | 0, _ => []
  | width + 1, n => hex width (n / 16) ++ [Nat.digitChar (n % 16)]

/-- A character inside a text quoted by `quote`. -/
def escapeChar (quote c : Char) : Text :=
  if c = quote || c = '\\' then ['\\', c]
  else if c = '\n' then ['\\', 'n']
  else if c = '\r' then ['\\', 'r']
  else if c = '\t' then ['\\', 't']
  else if isPrintable c then [c]
  else if c.toNat < 0x100 then '\\' :: 'x' :: hex 2 c.toNat
  else if c.toNat < 0x10000 then '\\' :: 'u' :: hex 4 c.toNat
  else '\\' :: 'U' :: hex 8 c.toNat

/-- The quote that encloses a text. -/
def quoteFor (text : Text) : Char :=
  if text.contains '\'' && !text.contains '"' then '"' else '\''

/-- The text in quotes. -/
def quoted (text : Text) : Text :=
  let quote := quoteFor text
  quote :: text.flatMap (escapeChar quote) ++ [quote]

/-- Several texts, each in quotes, in parentheses. -/
def quotedTuple (texts : List Text) : Text :=
  '(' :: join ", " (texts.map quoted) ++ [')']

end Text

end CodeGauge
