import CodeGauge.Pattern.Basic

/-!
Where a pattern matches in a text: at a given place, at the first place that allows it, or at all
places in turn, where each match begins no earlier than the one before it ends.
-/
namespace CodeGauge

/-- A stretch of text that a pattern matches. -/
structure Match where
  start : Cursor
  stop : Cursor
  captures : List Capture
deriving Repr, DecidableEq

namespace Match

def text (m : Match) : Text :=
  m.start.upTo m.stop

/-- The number of characters matched. -/
def length (m : Match) : Nat :=
  m.start.ahead.length - m.stop.ahead.length

/-- The latest capture of a part. -/
def capture? (m : Match) (part : Part) : Option Capture :=
  m.captures.find? (·.part = part)

/-- The text of a part; empty when the part took no share in the match. -/
def part (m : Match) (part : Part) : Text :=
  match m.capture? part with
  | some capture => capture.start.upTo capture.stop
  | none => []

end Match

namespace Pattern

/-- The preferred match that begins exactly at a place. -/
def matchAt? (p : Pattern) (place : Cursor) : Option Match :=
  match p.run ⟨place, []⟩ some with
  | some s => some ⟨place, s.place, s.captures⟩
  | none => none

def matchesAt (p : Pattern) (place : Cursor) : Bool :=
  (p.matchAt? place).isSome

/-- The first match in the text `ahead`, when `behind` precedes it. -/
def searchFrom (p : Pattern) : (behind ahead : Text) → Option Match
  | behind, [] => p.matchAt? ⟨behind, []⟩
  | behind, c :: rest =>
    match p.matchAt? ⟨behind, c :: rest⟩ with
    | some m => some m
    | none => searchFrom p (c :: behind) rest

/-- The match that begins first. -/
def search? (p : Pattern) (text : Text) : Option Match :=
  p.searchFrom [] text

/-- Whether the pattern matches somewhere in the text. -/
def foundIn (p : Pattern) (text : Text) : Bool :=
  (p.search? text).isSome

/-- The matches in the text `ahead` that begin after the next `skip` characters. -/
def findAllFrom (p : Pattern) : (skip : Nat) → (behind ahead : Text) → List Match
  | 0, behind, [] => (p.matchAt? ⟨behind, []⟩).toList
  | _ + 1, _, [] => []
  | skip + 1, behind, c :: rest => findAllFrom p skip (c :: behind) rest
  | 0, behind, c :: rest =>
    match p.matchAt? ⟨behind, c :: rest⟩ with
    | some m => m :: findAllFrom p (m.length - 1) (c :: behind) rest
    | none => findAllFrom p 0 (c :: behind) rest

/-- Every match in turn, none overlapping another. -/
def findAll (p : Pattern) (text : Text) : List Match :=
  p.findAllFrom 0 [] text

/-- A place where the pattern does not match. -/
def notAt (p : Pattern) : Pattern :=
  check fun place => !p.matchesAt place

end Pattern

end CodeGauge
