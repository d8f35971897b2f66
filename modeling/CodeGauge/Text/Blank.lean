import CodeGauge.Text.Basic

/-!
White space and what it separates. Besides the space characters of the Unicode property, the four
information separators U+001C to U+001F count as blank.
-/
namespace CodeGauge

/-- White space, the information separators included. -/
def isBlank (c : Char) : Bool :=
  let n := c.toNat
  (0x9 ≤ n && n ≤ 0xD) || (0x1C ≤ n && n ≤ 0x20) || n == 0x85 || n == 0xA0 || n == 0x1680 ||
    (0x2000 ≤ n && n ≤ 0x200A) || n == 0x2028 || n == 0x2029 || n == 0x202F || n == 0x205F ||
    n == 0x3000

/-- A space or a tab: the blanks that indent a line. -/
def isIndent (c : Char) : Bool :=
  c == ' ' || c == '\t'

namespace Text

def trimStart (text : Text) : Text :=
  text.dropWhile isBlank

def trimEnd (text : Text) : Text :=
  (text.reverse.dropWhile isBlank).reverse

def trim (text : Text) : Text :=
  trimEnd (trimStart text)

/-- Whether nothing but white space is there. -/
def isAllBlank (text : Text) : Bool :=
  text.all isBlank

/-- The words read so far, given the reversed word that is being read. -/
def fieldsFrom (current : Text) : Text → List Text
  | [] => if current.isEmpty then [] else [current.reverse]
  | c :: rest =>
    if isBlank c then
      if current.isEmpty then fieldsFrom [] rest else current.reverse :: fieldsFrom [] rest
    else fieldsFrom (c :: current) rest

/-- The words that white space separates. -/
def fields (text : Text) : List Text :=
  fieldsFrom [] text

end Text

end CodeGauge
