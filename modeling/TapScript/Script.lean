import TapScript.Line

/-!
# Script files

A script file is UTF-8 text. Why a file cannot be read is told in the words of the system.
-/

namespace TapScript

/-- Why a script file cannot be read. -/
inductive ReadError where
  | notFound
  | isDirectory
  | notDirectory
  | notText
  | other (reason : String)
deriving DecidableEq, Repr

namespace ReadError

/-- The reason in the words of the system. -/
def reason : ReadError → String
  | notFound => "No such file or directory (os error 2)"
  | isDirectory => "Is a directory (os error 21)"
  | notDirectory => "Not a directory (os error 20)"
  | notText => "stream did not contain valid UTF-8"
  | other reason => reason

/-- The reason as it is reported of a script. -/
def message (e : ReadError) : String := "IO error: " ++ e.reason

end ReadError

namespace Script

/-- The text of a file with the given bytes. -/
def text (bytes : ByteArray) : Except ReadError Text :=
  match String.fromUTF8? bytes with
  | some s => .ok s.toList
  | none => .error .notText

/-- The lines of a script file with the given bytes. -/
def ofBytes (bytes : ByteArray) : Except ReadError (List Line) :=
  (text bytes).map Line.ofSource

end Script

end TapScript
