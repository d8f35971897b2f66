import CodeGauge.Pattern.Search
import CodeGauge.Text.Digit

/-!
Loops that shrink their range by a factor: the index is divided, multiplied or shifted in each
round, or a middle is computed and a bound moved next to it.
-/
namespace CodeGauge.Halving

open Pattern

def word : Pattern := many1 isWord

def number : Pattern := many1 isDigit

def restOfLine : Pattern := many (· != '\n')

/-- `x op= n` or `x = y op n`. -/
def update (operator : Pattern) : Pattern :=
  (word ++ blanks ++ operator ++ "=" ++ blanks ++ number).alt
    (word ++ blanks ++ "=" ++ blanks ++ word ++ blanks ++ operator ++ blanks ++ number)

/-- A single or a double slash. -/
def division : Pattern := "/" ++ opt "/"

/-- The index is divided, multiplied or shifted. -/
def updates : List Pattern :=
  [update division, update "*", update (anyWord [">>", "<<"])]

/-- `mid = (lo + hi) / 2` or `mid = lo + (hi - lo) / 2`. -/
def midpoint : Pattern :=
  (word ++ blanks ++ "=" ++ blanks ++ "(" ++ restOfLine ++ "+" ++ restOfLine ++ ")" ++ blanks ++
      division ++ blanks ++ number).alt
    (word ++ blanks ++ "=" ++ blanks ++ word ++ blanks ++ "+" ++ blanks ++ "(" ++ restOfLine ++
      ")" ++ blanks ++ division ++ blanks ++ number)

/-- `lo = mid + 1` or `hi = mid - 1`. -/
def boundsUpdate : Pattern :=
  word ++ blanks ++ "=" ++ blanks ++ word ++ blanks ++ one (isOneOf "+-") ++ blanks ++ number

/-- Whether the condition, update and body of a loop shrink its range by a factor. -/
def isHalving (iteration : Text) : Bool :=
  updates.any (·.foundIn iteration) ||
    (midpoint.foundIn iteration && boundsUpdate.foundIn iteration)

end CodeGauge.Halving
