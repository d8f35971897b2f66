import CodeGauge.Text.Basic
import CodeGauge.Text.Property
import CodeGauge.Text.Table.Word

/-!
The characters that make up words, and the places where a word begins or ends.
-/
namespace CodeGauge

/-- Letters, digits, numerals and the underscore of any script; no combining mark. -/
def isWord (c : Char) : Bool :=
  let n := c.toNat
  if n < 0x80 then c.isAlphanum || c == '_' else Text.Table.inRanges n Text.Table.word

/-- A character that can continue an identifier. -/
def isNamePart (c : Char) : Bool :=
  isWord c || c == '$'

/-- A character that can begin an identifier: an ASCII letter, an underscore or a dollar sign. -/
def isNameStart (c : Char) : Bool :=
  c.isAlpha || c == '_' || c == '$'

end CodeGauge
