import CodeGauge.CommandLine.Word
import CodeGauge.Text.Numeral

/-!
What the words of a command line set. Words that nothing can be made of are remembered and refused
in the end.
-/
namespace CodeGauge.CommandLine

/-- Why a command line leads to no analysis. -/
inductive Halt where
  | helpAsked
  | misuse (m : Misuse)
deriving Repr, DecidableEq

/-- How a word with a switch ends. -/
inductive Ending where
  | complete
  | value (s : Switch) (text : Text)
  | wantsValue (s : Switch)
  | unrecognized (text : Text)
deriving Repr, DecidableEq

namespace Ending

/-- The ending of a word that ends with the name of a switch. -/
def ofSwitch (s : Switch) : List Switch × Ending :=
  if s.takesValue then ([], .wantsValue s) else ([s], .complete)

/-- The flags in a word that begins with a short name, and how the word ends. What is attached to a
flag is more short names; an equals sign or another dash must not follow it. -/
def cluster (s : Switch) (byEquals : Bool) (text : Text) :
    Except Misuse (List Switch × Ending) :=
  if s.takesValue then .ok ([], .value s text)
  else
    match text with
    | [] => .error (.valueUnwanted s [])
    | c :: rest =>
      if byEquals || c == '-' then .error (.valueUnwanted s (c :: rest))
      else
        match Switch.ofName? ['-', c], rest with
        | none, _ => .ok ([s], .unrecognized ('-' :: c :: rest))
        | some next, [] =>
          let (flags, ending) := ofSwitch next
          .ok (s :: flags, ending)
        | some next, '=' :: assigned =>
          (cluster next true assigned).map fun (flags, ending) => (s :: flags, ending)
        | some next, more =>
          (cluster next false more).map fun (flags, ending) => (s :: flags, ending)

/-- The flags of a word with a switch, and how the word ends. -/
def ofWord (s : Switch) (short : Bool) :
    Option Attachment → Except Misuse (List Switch × Ending)
  | none => .ok (ofSwitch s)
  | some attached =>
    if short then cluster s attached.byEquals attached.text
    else if s.takesValue then .ok ([], .value s attached.text)
    else .error (.valueUnwanted s attached.text)

end Ending

/-- What has been set so far. -/
structure Arguments where
  path : Option Text := none
  line : Option Int := none
  column : Int := 0
  /-- Empty when no language is given. -/
  language : Text := []
  json : Bool := false
  options : AnalysisOptions := {}
  unrecognized : List Text := []
deriving Repr, DecidableEq

namespace Arguments

/-- The integer that is the value of a switch. -/
def integer (s : Switch) (value : Text) : Except Halt Int :=
  match Numeral.parse value with
  | .ok n => .ok n
  | .error _ => .error (.misuse (.valueNotAnInteger s value))

def setFlag (a : Arguments) : Switch → Except Halt Arguments
  | .help => .error .helpAsked
  | .json => .ok { a with json := true }
  | .noComplexity => .ok { a with options := { a.options with complexity := false } }
  | .noPerformance => .ok { a with options := { a.options with performance := false } }
  | .noSecurity => .ok { a with options := { a.options with security := false } }
  | .line | .column | .language | .verbose => .ok a

def setValue (a : Arguments) (s : Switch) (value : Text) : Except Halt Arguments :=
  match s with
  | .line => (integer s value).map fun n => { a with line := some n }
  | .column => (integer s value).map fun n => { a with column := n }
  | .language => .ok { a with language := value }
  | _ => .ok a

def addUnrecognized (a : Arguments) (text : Text) : Arguments :=
  { a with unrecognized := a.unrecognized ++ [text] }

/-- Takes the words one after the other. The first argument that is no value is the path, and a
separator next to it is used up; later arguments and separators are not recognized. -/
def take (a : Arguments) : List Word → Except Halt Arguments
  | [] => .ok a
  | .argument text :: rest =>
    match a.path, rest with
    | none, .separator :: rest => take { a with path := some text } rest
    | none, rest => take { a with path := some text } rest
    | some _, rest => take (a.addUnrecognized text) rest
  | .separator :: rest =>
    match a.path, rest with
    | none, .argument text :: rest => take { a with path := some text } rest
    | _, rest => take (a.addUnrecognized Word.separatorText) rest
  | .unknown text :: rest => take (a.addUnrecognized text) rest
  | .switch s short attached :: rest =>
    match Ending.ofWord s short attached with
    | .error m => .error (.misuse m)
    | .ok (flags, .complete) => do take (← flags.foldlM setFlag a) rest
    | .ok (flags, .unrecognized text) => do take (← flags.foldlM setFlag (a.addUnrecognized text)) rest
    | .ok (flags, .value s value) => do take (← (← flags.foldlM setFlag a).setValue s value) rest
    | .ok (flags, .wantsValue s) =>
      match rest with
      | .argument value :: rest => do take (← (← flags.foldlM setFlag a).setValue s value) rest
      | _ => .error (.misuse (.valueMissing s))

/-- What a command line sets. -/
def ofTexts (texts : List Text) : Except Halt Arguments :=
  match Word.ofTexts texts with
  | .error m => .error (.misuse m)
  | .ok words => take {} words

end Arguments

end CodeGauge.CommandLine
