import JobReport.Command.Run

/-!
# The program

Reads the files and the environment of its process, and leaves all else to the command. On the
standard error stands what it reports. The records that it keeps of its own doings, which may stand
there too, are left out, and so are the last words of a program that breaks off.
-/

set_option autoImplicit false

namespace JobReport.Program

/-- The number of a system error, which some calls give with its sign changed. -/
def errorNumber (code : UInt32) : UInt32 := min code (0 - code)

/-- A fault as the system tells of it. -/
def faultOf : IO.Error → FileFault
  | .noFileOrDirectory .. => .notFound
  | e@(.inappropriateType _ code _) =>
    if errorNumber code = 20 then .notADirectory
    else if errorNumber code = 21 then .isADirectory
    else .other (toString e)
  | e@(.invalidArgument _ code _) | e@(.resourceExhausted _ code _) =>
    if errorNumber code = 36 then .nameTooLong else .other (toString e)
  | e => .other (toString e)

def readFile : FileReader IO := fun path => do
  if '\x00' ∈ path.text.toList then
    pure (.error .nulInName)
  else
    try
      let bytes ← IO.FS.readBinFile path.text
      pure (.ok bytes.toList)
    catch e => pure (.error (faultOf e))

/-- The variables in the block that the system keeps of them, each ended by a zero byte. -/
def environmentOf (block : Text.Bytes) : Environment := fun name =>
  let entries := (Text.cutAfter 0 block).filterMap fun entry =>
    (Text.Utf8.decode? (entry.takeWhile (· ≠ 0))).map fun s =>
      (String.ofList (s.takeWhile (· ≠ '=')), String.ofList ((s.dropWhile (· ≠ '=')).drop 1))
  entries.lookup name

def environment : IO Environment := do
  match ← readFile ⟨"/proc/self/environ"⟩ with
  | .ok block => pure (environmentOf block)
  | .error _ => pure fun _ => none

/-- A text whose lines after the first are set in. -/
def setIn (indent message : String) : String :=
  String.intercalate ("\n" ++ indent) ((Text.split '\n' message.toList).map String.ofList)

/-- The causes of a failure, numbered if there are several. -/
def reportCauses : List String → String
  | [] => ""
  | [cause] => "\n\nCaused by:\n    " ++ setIn "    " cause
  | causes =>
    "\n\nCaused by:" ++ String.join (causes.mapIdx fun i cause =>
      "\n    " ++ toString i ++ ": " ++ setIn "       " cause)

/-- The message of a failure with those of its causes. -/
def report : List String → String
  | [] => ""
  | message :: causes => "Error: " ++ message ++ reportCauses causes ++ "\n"

def usage : String :=
  "Usage: job-views render [--kind job|light|attempts|full] JOB\n" ++
  "       job-views sync METADATA\n" ++
  "       job-views debug --source SOURCE --destination DESTINATION JOB\n"

/-- What is printed on the standard output. -/
def output : Command.Outcome → String
  | .shown text => text
  | .refused .version => Command.versionLine
  | .refused .help => usage
  | .refused .usage | .failed _ => ""

/-- What is reported on the standard error. -/
def errors : Command.Outcome → String
  | .refused .usage => usage
  | .failed why => if why.breaksOff then "" else report why.chain
  | .refused .version | .refused .help | .shown _ => ""

end JobReport.Program

open JobReport

def main (args : List String) : IO UInt32 := do
  let env ← Program.environment
  let dir ← IO.currentDir
  let outcome ← Command.run Program.readFile env ⟨dir.toString⟩ args
  IO.print (Program.output outcome)
  IO.eprint (Program.errors outcome)
  pure outcome.exitCode.toUInt32
