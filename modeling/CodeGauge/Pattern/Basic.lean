import CodeGauge.Text.Blank
import CodeGauge.Text.Word

/-!
Patterns over texts. A pattern is tried at a place in a text and may succeed in several ways; the
ways are ordered by preference, and the first one after which the rest of the pattern succeeds is
taken. A pattern sees the characters on both sides of a place, so that it can ask for the borders of
words and lines.
-/
namespace CodeGauge

/-- A place in a text: the characters before it, nearest first, and the characters after it. -/
structure Cursor where
  behind : Text
  ahead : Text
deriving Repr, DecidableEq

namespace Cursor

/-- The place before the first character. -/
def first (text : Text) : Cursor :=
  ⟨[], text⟩

/-- The number of characters before the place. -/
def offset (c : Cursor) : Nat :=
  c.behind.length

/-- The text between a place and a later one. -/
def upTo (start stop : Cursor) : Text :=
  start.ahead.take (start.ahead.length - stop.ahead.length)

/-- The whole text that the place is in. -/
def text (c : Cursor) : Text :=
  c.behind.reverse ++ c.ahead

/-- The place behind `word`, when it comes next. -/
def skip? : (word : Text) → Cursor → Option Cursor
  | [], c => some c
  | _ :: _, ⟨_, []⟩ => none
  | w :: word, ⟨behind, c :: rest⟩ => if c = w then skip? word ⟨c :: behind, rest⟩ else none

def isTextStart (c : Cursor) : Bool :=
  c.behind.isEmpty

/-- At the start of the text or behind a line feed. -/
def isLineStart (c : Cursor) : Bool :=
  match c.behind with
  | [] => true
  | b :: _ => b == '\n'

def isAfter (accepts : Char → Bool) (c : Cursor) : Bool :=
  match c.behind with
  | [] => false
  | b :: _ => accepts b

def isBefore (accepts : Char → Bool) (c : Cursor) : Bool :=
  match c.ahead with
  | [] => false
  | a :: _ => accepts a

/-- A word begins or ends here. -/
def isWordBorder (c : Cursor) : Bool :=
  c.isAfter isWord != c.isBefore isWord

end Cursor

/-- The pieces of a match that are read back. -/
inductive Part where
  | name
  | value
  | size
deriving Repr, DecidableEq

/-- A piece of a match with the places where it begins and ends. -/
structure Capture where
  part : Part
  start : Cursor
  stop : Cursor
deriving Repr, DecidableEq

/-- How far a match has come, and what it has captured, latest first. -/
structure Progress where
  place : Cursor
  captures : List Capture
deriving Repr, DecidableEq

/-- Which number of repetitions is tried first. -/
inductive Preference where
  | longest
  | shortest
deriving Repr, DecidableEq

inductive Pattern where
  /-- Exactly these characters. -/
  | literal (word : Text)
  /-- One accepted character. -/
  | one (accepts : Char → Bool)
  /-- Any number of accepted characters. -/
  | span (preference : Preference) (accepts : Char → Bool)
  | seq (first second : Pattern)
  /-- The first pattern or else the second. -/
  | alt (first second : Pattern)
  /-- Any number of repetitions of a pattern, each of which takes at least one character: there are
  never more of them than characters left. -/
  | star (preference : Preference) (body : Pattern)
  /-- Nothing, at a place where the condition holds. -/
  | check (holds : Cursor → Bool)
  /-- The body, remembering where it begins and ends. -/
  | capture (part : Part) (body : Pattern)

namespace Pattern

section Run

variable {α : Type}

/-- Tries `next` behind every run of accepted characters, the longest first. -/
def runLongest (accepts : Char → Bool) (next : Cursor → Option α) :
    (behind ahead : Text) → Option α
  | behind, [] => next ⟨behind, []⟩
  | behind, c :: rest =>
    if accepts c then
      match runLongest accepts next (c :: behind) rest with
      | some found => some found
      | none => next ⟨behind, c :: rest⟩
    else next ⟨behind, c :: rest⟩

/-- Tries `next` behind every run of accepted characters, the shortest first. -/
def runShortest (accepts : Char → Bool) (next : Cursor → Option α) :
    (behind ahead : Text) → Option α
  | behind, [] => next ⟨behind, []⟩
  | behind, c :: rest =>
    match next ⟨behind, c :: rest⟩ with
    | some found => some found
    | none => if accepts c then runShortest accepts next (c :: behind) rest else none

/-- Tries `next` after every number of repetitions, the largest first. There are at most as many as
there are characters in `ahead`. -/
def repeatLongest (body : Progress → (Progress → Option α) → Option α)
    (next : Progress → Option α) : (ahead : Text) → Progress → Option α
  | [], s => next s
  | _ :: rest, s =>
    match body s (repeatLongest body next rest) with
    | some found => some found
    | none => next s

/-- Tries `next` after every number of repetitions, the smallest first. There are at most as many as
there are characters in `ahead`. -/
def repeatShortest (body : Progress → (Progress → Option α) → Option α)
    (next : Progress → Option α) : (ahead : Text) → Progress → Option α
  | [], s => next s
  | _ :: rest, s =>
    match next s with
    | some found => some found
    | none => body s (repeatShortest body next rest)

/-- Tries `next` after every way in which the pattern succeeds, in the order of preference. -/
def run : Pattern → Progress → (Progress → Option α) → Option α
  | literal word, s, next =>
    match s.place.skip? word with
    | some place => next ⟨place, s.captures⟩
    | none => none
  | one accepts, s, next =>
    match s.place.ahead with
    | [] => none
    | c :: rest => if accepts c then next ⟨⟨c :: s.place.behind, rest⟩, s.captures⟩ else none
  | span .longest accepts, s, next =>
    runLongest accepts (fun place => next ⟨place, s.captures⟩) s.place.behind s.place.ahead
  | span .shortest accepts, s, next =>
    runShortest accepts (fun place => next ⟨place, s.captures⟩) s.place.behind s.place.ahead
  | seq first second, s, next => run first s fun s => run second s next
  | alt first second, s, next =>
    match run first s next with
    | some found => some found
    | none => run second s next
  | star .longest body, s, next => repeatLongest (run body) next s.place.ahead s
  | star .shortest body, s, next => repeatShortest (run body) next s.place.ahead s
  | check holds, s, next => if holds s.place then next s else none
  | capture part body, s, next =>
    run body s fun s' => next ⟨s'.place, ⟨part, s.place, s'.place⟩ :: s'.captures⟩

end Run

instance : Append Pattern := ⟨seq⟩

instance : Coe String Pattern := ⟨fun word => literal word.toList⟩

/-- Nothing at all. -/
def empty : Pattern :=
  literal []

/-- The first of the patterns that leads to a match. -/
def anyOf : List Pattern → Pattern
  | [] => one fun _ => false
  | [p] => p
  | p :: rest => alt p (anyOf rest)

/-- One of the words, the earlier ones first. -/
def anyWord (words : List Text) : Pattern :=
  anyOf (words.map literal)

/-- The pattern, or nothing. -/
def opt (p : Pattern) : Pattern :=
  alt p empty

/-- Any number of accepted characters, as many as possible. -/
def many (accepts : Char → Bool) : Pattern :=
  span .longest accepts

/-- One accepted character or more, as many as possible. -/
def many1 (accepts : Char → Bool) : Pattern :=
  one accepts ++ many accepts

/-- White space of any length. -/
def blanks : Pattern :=
  many isBlank

/-- Spaces and tabs of any length. -/
def indent : Pattern :=
  many isIndent

/-- A place where a word begins or ends. -/
def border : Pattern :=
  check Cursor.isWordBorder

/-- A place that does not follow an accepted character. -/
def notAfter (accepts : Char → Bool) : Pattern :=
  check fun c => !c.isAfter accepts

/-- A place that does not precede an accepted character. -/
def notBefore (accepts : Char → Bool) : Pattern :=
  check fun c => !c.isBefore accepts

def lineStart : Pattern :=
  check Cursor.isLineStart

def textStart : Pattern :=
  check Cursor.isTextStart

end Pattern

/-- Any of the listed characters. -/
def isOneOf (characters : Text) (c : Char) : Bool :=
  characters.contains c

/-- Any character but the listed ones. -/
def isNoneOf (characters : Text) (c : Char) : Bool :=
  !characters.contains c

end CodeGauge
