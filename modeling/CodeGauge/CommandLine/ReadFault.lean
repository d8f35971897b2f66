import CodeGauge.Path
import CodeGauge.Text.Quoted
import CodeGauge.Text.Utf8

/-!
Why a source file cannot be read.
-/
namespace CodeGauge.CommandLine

/-- What the operating system refuses. -/
inductive FileFault where
  | missing
  | denied
  | notADirectory
  | isADirectory
  | nameTooLong
  | unreadable
deriving Repr, DecidableEq

namespace FileFault

def all : List FileFault := [missing, denied, notADirectory, isADirectory, nameTooLong, unreadable]

/-- The number of the fault. -/
def code : FileFault → Nat
  | missing => 2
  | unreadable => 5
  | denied => 13
  | notADirectory => 20
  | isADirectory => 21
  | nameTooLong => 36

def reason : FileFault → Text
  | missing => "No such file or directory"
  | unreadable => "Input/output error"
  | denied => "Permission denied"
  | notADirectory => "Not a directory"
  | isADirectory => "Is a directory"
  | nameTooLong => "File name too long"

def ofCode (code : Nat) : FileFault :=
  (all.find? (·.code = code)).getD unreadable

end FileFault

/-- A file that cannot be opened, or one whose bytes are no text. -/
inductive ReadFault where
  | file (fault : FileFault)
  | encoding (e : DecodeError)
deriving Repr, DecidableEq

/-- The byte at fault, or the range of bytes when several are. -/
def place (e : DecodeError) : Text :=
  if e.stop = e.start + 1 then
    ("byte 0x" : Text) ++ Text.hex 2 e.firstByte.toNat ++ (" in position " : Text) ++
      Text.ofInt e.start
  else
    ("bytes in position " : Text) ++ Text.ofInt e.start ++ ("-" : Text) ++
      Text.ofInt ((e.stop : Int) - 1)

def ReadFault.message (path : Path) : ReadFault → Text
  | .file fault =>
    ("[Errno " : Text) ++ Text.ofInt fault.code ++ ("] " : Text) ++ fault.reason ++ (": " : Text) ++
      path.toText.quoted
  | .encoding e =>
    ("'utf-8' codec can't decode " : Text) ++ place e ++ (": " : Text) ++ e.fault.message

end CodeGauge.CommandLine
