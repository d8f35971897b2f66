import CodeGauge.Grammar.Basic

/-!
The content of string literals, and the declarations that start from one.
-/
namespace CodeGauge

namespace Text

/-- Takes a quote off both ends of a text, when both ends carry it. -/
def stripQuote? (quote text : Text) : Option Text :=
  if 2 * quote.length ≤ text.length && quote.isPrefixOf text && quote.isSuffixOf text then
    some ((text.drop quote.length).take (text.length - 2 * quote.length))
  else none

/-- The content of a literal: without the letters and signs in front of its quotes, and without the
quotes. -/
def unquote (text : Text) : Text :=
  let body := text.dropWhile ("rRbBuUfF@$".toList.contains ·)
  let quotes : List Text := ["\"\"\"", "'''", "\"", "'", "`"]
  (quotes.findSome? (stripQuote? · body)).getD body

end Text

namespace Grammar

mutual

/-- The content of a Python string: of all its parts, or of its pieces between interpolations. -/
def pythonString (source : Text) : ParseTree → Text
  | .node label children =>
    if label.type = ("concatenated_string" : Text) then pythonStrings source children
    else
      let named := children.filter (·.label.named)
      let contents := named.filter (·.type = ("string_content" : Text))
      if !contents.isEmpty then contents.flatMap (·.text source)
      else if named.any (·.type = ("interpolation" : Text)) then []
      else (source.byteSlice label.start label.stop).unquote

/-- The contents of the named ones among several strings, joined. -/
def pythonStrings (source : Text) : List ParseTree → Text
  | [] => []
  | n :: rest =>
    (if n.label.named then pythonString source n else []) ++ pythonStrings source rest

end

/-- The content of a string literal. -/
def stringValue (g : Grammar) (source : Text) (n : ParseTree) : Text :=
  match g with
  | java =>
    let text := n.text source
    let quotes : List Text := ["\"\"\"", "\""]
    (quotes.findSome? (Text.stripQuote? · text)).getD text
  | javascript =>
    let text := n.text source
    let quotes : List Text := ["\"", "'", "`"]
    (quotes.findSome? (Text.stripQuote? · text)).getD text
  | python => pythonString source n

/-- The node that holds the name that a declaration declares. Unpacking and subscripts declare no
single name. -/
def declaredNameNode? (g : Grammar) (declaration : ParseTree) : Option ParseTree :=
  match g with
  | java => declaration.child? "name"
  | javascript =>
    match declaration.child? "name" with
    | some name => some name
    | none => declaration.child? "property"
  | python =>
    match declaration.child? "left" with
    | none => none
    | some left =>
      if left.type = ("attribute" : Text) then left.child? "attribute"
      else if left.type = ("identifier" : Text) then some left
      else none

/-- The name that a declaration declares; empty when there is none. -/
def declaredName (g : Grammar) (source : Text) (declaration : ParseTree) : Text :=
  match g.declaredNameNode? declaration with
  | some name => name.text source
  | none => []

/-- The field of a declaration that holds what it starts from. -/
def initialField : Grammar → Text
  | python => "right"
  | _ => "value"

/-- Whether a declaration declares one variable, so that what it starts from is its value. -/
def declaresOne (g : Grammar) (declaration : ParseTree) : Bool :=
  match g with
  | python =>
    match declaration.child? "left" with
    | none => false
    | some left => left.type = ("attribute" : Text) || left.type = ("identifier" : Text)
  | _ => true

/-- The content of the string literal that a declaration starts from, if it does. -/
def declaredValue? (g : Grammar) (source : Text) (declaration : ParseTree) : Option Text :=
  if g.declaresOne declaration then
    match declaration.child? g.initialField with
    | none => none
    | some initial =>
      if g.stringTypes.contains initial.type then some (g.stringValue source initial) else none
  else none

end Grammar

end CodeGauge
