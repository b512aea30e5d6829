import JobReport.Path

/-!
# Commands and their arguments

A command names one file, and may be given options before and after it. The first argument that
is not accepted decides, whatever follows it; asking for help or for the version counts as such.
-/

set_option autoImplicit false

namespace JobReport

inductive ViewKind where
  | job
  | light
  | attempts
  | full
  deriving DecidableEq, Repr

def ViewKind.ofName? (name : String) : Option ViewKind :=
  if name = "job" then some .job
  else if name = "light" then some .light
  else if name = "attempts" then some .attempts
  else if name = "full" then some .full
  else none

inductive Command where
  | render (kind : ViewKind) (job : Path)
  | sync (job : Path)
  | debug (job source destination : Path)
  deriving DecidableEq, Repr

namespace Command

inductive Refusal where
  | usage
  | version
  | help
  deriving DecidableEq, Repr

inductive Verb where
  | render
  | sync
  | debug
  deriving DecidableEq, Repr

namespace Verb

def ofName? (name : String) : Option Verb :=
  if name = "render" then some .render
  else if name = "sync" then some .sync
  else if name = "debug" then some .debug
  else none

def knows : Verb → String → Bool
  | .render, name => name == "kind"
  | .sync, _ => false
  | .debug, name => name == "source" || name == "destination"

/-- Whether an option of the verb takes this value. All but kinds are paths. -/
def takes : Verb → String → Bool
  | .render, value => (ViewKind.ofName? value).isSome
  | .sync, _ => false
  | .debug, value => value ≠ ""

end Verb

/-- What has been given after a verb. -/
structure Given where
  options : List (String × String)
  file : Option String
  deriving Repr

namespace Given

def none : Given := ⟨[], .none⟩

def option? (given : Given) (name : String) : Option String := given.options.lookup name

/-- An option that is not there yet gets a value. -/
def addOption (given : Given) (verb : Verb) (name value : String) : Except Refusal Given :=
  if (given.option? name).isSome ∨ verb.takes value = false then .error .usage
  else .ok { given with options := (name, value) :: given.options }

def addFile (given : Given) (file : String) : Except Refusal Given :=
  if given.file.isSome ∨ file = "" then .error .usage
  else .ok { given with file := some file }

end Given

/-- What the form of an argument says about it. -/
inductive Argument where
  | plain (text : String)
  /-- The mark after which there are no more options. -/
  | endOfOptions
  | letters (letters : List Char)
  | option (name : String) (value : Option String)
  deriving Repr

def Argument.ofText (text : String) : Argument :=
  match text.toList with
  | ['-', '-'] => .endOfOptions
  | '-' :: '-' :: rest =>
    let name := String.ofList (rest.takeWhile (· ≠ '='))
    match rest.dropWhile (· ≠ '=') with
    | _ :: value => .option name (some (String.ofList value))
    | [] => .option name none
  | '-' :: c :: rest => .letters (c :: rest)
  | _ => .plain text

/-- Only the first of some letters is looked at; all that are known end the reading. -/
def ofLetters (letters : List Char) (version : Bool) : Refusal :=
  match letters with
  | 'h' :: _ => .help
  | 'V' :: _ => if version then .version else .usage
  | _ => .usage

/-- Takes the files that stand where no option can. -/
def addFiles (given : Given) : List String → Except Refusal Given
  | [] => .ok given
  | arg :: args => do
    let given ← given.addFile arg
    addFiles given args

/-- Goes through the arguments of a verb. An option may await its value. -/
def gather (verb : Verb) (awaiting : Option String) (given : Given) :
    List String → Except Refusal Given
  | [] => if awaiting.isSome then .error .usage else .ok given
  | arg :: args =>
    match awaiting, Argument.ofText arg with
    | some name, .plain value => do
      let given ← given.addOption verb name value
      gather verb none given args
    | some _, _ => .error .usage
    | none, .plain file => do
      let given ← given.addFile file
      gather verb none given args
    | none, .endOfOptions => addFiles given args
    | none, .letters letters => .error (ofLetters letters false)
    | none, .option name value =>
      if verb.knows name then
        match value with
        | some value => do
          let given ← given.addOption verb name value
          gather verb none given args
        | none => gather verb (some name) given args
      else if name = "help" ∧ value.isNone then .error .help
      else .error .usage

/-- The command of a verb, if nothing that it needs is left out. -/
def ofGiven (verb : Verb) (given : Given) : Except Refusal Command :=
  match verb, given.file with
  | _, none => .error .usage
  | .render, some file =>
    .ok (.render (((given.option? "kind").bind ViewKind.ofName?).getD .attempts) ⟨file⟩)
  | .sync, some file => .ok (.sync ⟨file⟩)
  | .debug, some file =>
    match given.option? "source", given.option? "destination" with
    | some source, some destination => .ok (.debug ⟨file⟩ ⟨source⟩ ⟨destination⟩)
    | _, _ => .error .usage

def parse : List String → Except Refusal Command
  | [] => .error .usage
  | arg :: args =>
    match Argument.ofText arg with
    | .plain name =>
      match Verb.ofName? name with
      | some verb => do
        let given ← gather verb none .none args
        ofGiven verb given
      | none => .error (if name = "help" then .help else .usage)
    | .letters letters => .error (ofLetters letters true)
    | .option name none =>
      .error (if name = "help" then .help else if name = "version" then .version else .usage)
    | .option _ (some _) | .endOfOptions => .error .usage

end Command

end JobReport
