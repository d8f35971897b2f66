import CodeGauge.CommandLine.Switch
import CodeGauge.Config

/-!
What can be wrong with a command line.
-/
namespace CodeGauge.CommandLine

inductive Misuse where
  | ambiguous (word : Text) (candidates : List Text)
  | valueMissing (s : Switch)
  | valueNotAnInteger (s : Switch) (value : Text)
  | valueUnwanted (s : Switch) (value : Text)
  | pathMissing
  | unrecognized (words : List Text)
  | badSetting (e : ConfigError)
  | lineNotPositive
deriving Repr, DecidableEq

namespace Misuse

/-- A complaint about one switch. -/
def about (s : Switch) (complaint : Text) : Text :=
  ("argument " : Text) ++ s.label ++ (": " : Text) ++ complaint

def message : Misuse → Text
  | ambiguous word candidates =>
    ("ambiguous option: " : Text) ++ word ++ (" could match " : Text) ++ Text.join ", " candidates
  | valueMissing s => about s "expected one argument"
  | valueNotAnInteger s value => about s (("invalid int value: " : Text) ++ value.quoted)
  | valueUnwanted s value => about s (("ignored explicit argument " : Text) ++ value.quoted)
  | pathMissing => "the following arguments are required: path"
  | unrecognized words => ("unrecognized arguments: " : Text) ++ Text.join [' '] words
  | badSetting e => e.message
  | lineNotPositive => "--line must be 1 or greater"

end Misuse

end CodeGauge.CommandLine
