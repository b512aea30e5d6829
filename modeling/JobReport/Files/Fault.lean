import JobReport.Path
import JobReport.Text.Utf8

/-!
# Reading files

A reader of files answers a path with the bytes found there or with the reason why there are
none.
-/

set_option autoImplicit false

namespace JobReport

/-- Why a file could not be read. -/
inductive FileFault where
  | notFound
  | notADirectory
  | isADirectory
  | nameTooLong
  | nulInName
  | notUtf8
  /-- A store of logs that are not files has none under this path. -/
  | noSuchLog
  /-- Any other reason, in the words of the system. -/
  | other (message : String)
  deriving DecidableEq, Repr

def FileFault.message : FileFault → String
  | .notFound => "No such file or directory (os error 2)"
  | .notADirectory => "Not a directory (os error 20)"
  | .isADirectory => "Is a directory (os error 21)"
  | .nameTooLong => "File name too long (os error 36)"
  | .nulInName => "file name contained an unexpected NUL byte"
  | .notUtf8 => "stream did not contain valid UTF-8"
  | .noSuchLog => "log not found"
  | .other message => message

abbrev FileReader (m : Type → Type) := Path → m (Except FileFault Text.Bytes)

end JobReport
