import JobReport.Files.Fault
import JobReport.Text.Alphanumeric
import JobReport.Text.Blank
import JobReport.Text.Lines

/-!
# Environment files

An environment file lists variables with their values, one to a line. A line goes on over line
feeds while a quote is open. Values are literal between single quotes; elsewhere they know escapes,
and names of other variables stand for the values of those.

Reading a file ends with its items or with a fault. One fault is no answer of the reader: where a
comment has to be cut off inside a character the program breaks off on the spot, and nothing that
comes after the file is done at all.
-/

set_option autoImplicit false

namespace JobReport

abbrev Environment := String → Option String

/-- What is wrong with a line: it does not parse on from a place, or a place where it has to be cut
is inside a character. -/
inductive LineFault where
  | unparsed (index : Nat)
  | uncut (index : Nat)
  deriving DecidableEq, Repr

/-- Why an environment file is not accepted. -/
inductive EnvFault where
  | file (cause : FileFault)
  | line (text : String) (cause : LineFault)
  deriving DecidableEq, Repr

namespace EnvFault

def message : EnvFault → String
  | .file cause => cause.message
  | .line text (.unparsed index) =>
    "Error parsing line: '" ++ text ++ "', error at line index: " ++ toString index
  | .line _ (.uncut _) => "assertion failed: self.is_char_boundary(new_len)"

/-- Whether the program breaks off with a fault, so that no one is told of it as an error. -/
def breaksOff : EnvFault → Bool
  | .line _ (.uncut _) => true
  | .file _ | .line _ (.unparsed _) => false

end EnvFault

namespace EnvFile

/-!
## Lines

A raw line goes up to a line feed or to the end of the file. It is gone along character by
character, quotes and backslashes counting anywhere in it. A comment begins in a gap, right after a
blank that follows a word.
-/

inductive Inside where
  | word
  | gap
  | escape
  | weak
  | weakEscape
  | strong
  | strongEscape
  deriving DecidableEq, Repr

def Inside.opened? (c : Char) : Option Inside :=
  if c = '\\' then some .escape
  else if c = '"' then some .weak
  else if c = '\'' then some .strong
  else none

/-- What follows a character; nothing if a comment begins with it. -/
def Inside.step (c : Char) : Inside → Option Inside
  | .word =>
    if Text.isBlank c ∧ c ≠ '\n' ∧ c ≠ '\r' then some .gap
    else some ((opened? c).getD .word)
  | .gap => if c = '#' then none else some ((opened? c).getD .word)
  | .escape => some .word
  | .weak =>
    if c = '\\' then some .weakEscape else if c = '"' then some .word else some .weak
  | .weakEscape => some .weak
  | .strong =>
    if c = '\\' then some .strongEscape else if c = '\'' then some .word else some .strong
  | .strongEscape => some .strong

/-- Goes along a raw line to its end, or to a comment, given by what stands before it. -/
def Inside.scan (inside : Inside) : List Char → Except (List Char) Inside
  | [] => .ok inside
  | c :: cs =>
    match inside.step c with
    | none => .error []
    | some next => (next.scan cs).mapError (c :: ·)

def dropLineEnd (line : List Char) : List Char :=
  match line.reverse with
  | '\n' :: '\r' :: front => front.reverse
  | '\n' :: front => front.reverse
  | _ => line

def isComment (line : List Char) : Bool := (Text.dropBlanks line).head? == some '#'

/-- The lines that are made of raw lines, from what is pending of the first. A fault ends them. A
comment at the end of a line goes together with all of the pending text but as many bytes as stand
before the comment on its own raw line. They need not end with a character of the pending text. -/
def linesFrom (pending : List Char) (inside : Inside) :
    List Text.Bytes → List (Except EnvFault (List Char))
  | [] =>
    if inside = .word then []
    else [.error (.line (String.ofList pending) (.unparsed (Text.Utf8.size pending)))]
  | raw :: rest =>
    match Text.Utf8.decode? raw with
    | none => [.error (.file .notUtf8)]
    | some line =>
      if isComment (pending ++ line) then .ok [] :: linesFrom [] .word rest
      else match inside.scan line with
        | .error before =>
          match Text.Utf8.takeSize? (Text.Utf8.size before) (pending ++ line) with
          | some front => .ok front :: linesFrom [] .word rest
          | none =>
            [.error (.line (String.ofList (pending ++ line)) (.uncut (Text.Utf8.size before)))]
        | .ok .word => .ok (dropLineEnd (pending ++ line)) :: linesFrom [] .word rest
        | .ok next => linesFrom (pending ++ line) next rest

def lines (bytes : Text.Bytes) : List (Except EnvFault (List Char)) :=
  linesFrom [] .word (Text.cutAfter 0x0A bytes)

/-!
## Values

A blank ends a value outside of quotes. A variable's name follows a dollar sign, perhaps in braces.
Both are also known between double quotes. A fault is found before what is left of the value, or
where quotes or braces are not closed at its end.
-/

inductive Mode where
  | plain (quoted : Bool)
  | escape (quoted : Bool)
  | literal
  | name (quoted : Bool) (name : List Char)
  | braced (quoted : Bool) (name : List Char)
  | ended
  deriving DecidableEq, Repr

inductive ValueFault where
  | before (rest : List Char)
  | unclosed
  deriving DecidableEq, Repr

def unescape? (c : Char) : Option Char :=
  if c = 'n' then some '\n'
  else if c = '\\' ∨ c = '\'' ∨ c = '"' ∨ c = '$' ∨ c = ' ' then some c
  else none

/-- The text that the rest of a value stands for, `lookup` giving the values of variables. -/
def valueFrom (lookup : List Char → List Char) : Mode → List Char → Except ValueFault (List Char)
  | .plain false, [] | .escape false, [] | .ended, [] => .ok []
  | .name false name, [] => .ok (lookup name)
  | .plain true, [] | .escape true, [] | .literal, [] | .name true _, [] | .braced .., [] =>
    .error .unclosed
  | .ended, c :: cs =>
    if c = ' ' ∨ c = '\t' then valueFrom lookup .ended cs
    else if c = '#' then .ok []
    else .error (.before (c :: cs))
  | .escape quoted, c :: cs =>
    match unescape? c with
    | some d => (valueFrom lookup (.plain quoted) cs).map (d :: ·)
    | none => .error (.before (c :: cs))
  | .literal, c :: cs =>
    if c = '\'' then valueFrom lookup (.plain false) cs
    else (valueFrom lookup .literal cs).map (c :: ·)
  | .name quoted name, c :: cs =>
    if Text.isAlphanumeric c then valueFrom lookup (.name quoted (name ++ [c])) cs
    else if c = '\x7b' ∧ name = [] then valueFrom lookup (.braced quoted []) cs
    else if c = '$' then (valueFrom lookup (.name quoted []) cs).map (lookup name ++ ·)
    else (valueFrom lookup (.plain quoted) cs).map (lookup name ++ c :: ·)
  | .braced quoted name, c :: cs =>
    if c = '\x7d' then (valueFrom lookup (.plain quoted) cs).map (lookup name ++ ·)
    else valueFrom lookup (.braced quoted (name ++ [c])) cs
  | .plain quoted, c :: cs =>
    if c = '$' then valueFrom lookup (.name quoted []) cs
    else if c = '\\' then valueFrom lookup (.escape quoted) cs
    else if c = '"' then valueFrom lookup (.plain !quoted) cs
    else if !quoted ∧ c = '\'' then valueFrom lookup .literal cs
    else if !quoted ∧ (c = ' ' ∨ c = '\t') then valueFrom lookup .ended cs
    else (valueFrom lookup (.plain quoted) cs).map (c :: ·)

def value (lookup : List Char → List Char) (text : List Char) : Except EnvFault (List Char) :=
  (valueFrom lookup (.plain false) text).mapError fun
    | .before rest => .line (String.ofList text) (.unparsed (text.length - rest.length))
    | .unclosed => .line (String.ofList text) (.unparsed (Text.Utf8.size text - 1))

/-!
## Items

A line sets a name to a value. A word that marks the variable for export may stand before the name;
it can also be the name. Of the items for one name the last one counts.
-/

abbrev Item := String × String

def last? (name : String) (items : List Item) : Option String := items.reverse.lookup name

/-- The value that a name stands for after some items, the process going first. -/
def lookup (env : Environment) (items : List Item) (name : List Char) : List Char :=
  (((env (String.ofList name)).or (last? (String.ofList name) items)).getD "").toList

def isNameStart (c : Char) : Bool := c.isAlpha || c == '_'

def isNameChar (c : Char) : Bool := c.isAlphanum || c == '_' || c == '.'

/-- The name at the front of a line, and what follows it and the blanks after it. The error is what
is left where no name is found. -/
def takeName : List Char → Except (List Char) (List Char × List Char)
  | [] => .error []
  | c :: cs =>
    if isNameStart c then
      .ok (c :: cs.takeWhile isNameChar, Text.dropBlanks (cs.dropWhile isNameChar))
    else .error (c :: cs)

def takeEquals : List Char → Except (List Char) (List Char)
  | '=' :: cs => .ok (Text.dropBlanks cs)
  | cs => .error cs

def takeTarget (s : List Char) : Except (List Char) (List Char × List Char) := do
  let (first, s) ← takeName s
  if first = "export".toList ∧ s.head? ≠ some '=' then
    let (name, s) ← takeName s
    let s ← takeEquals s
    pure (name, s)
  else
    let s ← takeEquals s
    pure (first, s)

def isBare (s : List Char) : Bool := s.isEmpty || s.head? == some '#'

def item? (env : Environment) (items : List Item) (line : List Char) :
    Except EnvFault (Option Item) := do
  let trimmed := Text.dropTrailingBlanks line
  let s := Text.dropBlanks trimmed
  if isBare s then pure none
  else
    let (name, text) ← (takeTarget s).mapError fun rest =>
      .line (String.ofList line) (.unparsed (Text.Utf8.size trimmed - Text.Utf8.size rest))
    if isBare text then pure (some (String.ofList name, ""))
    else
      let value ← value (lookup env items) text
      pure (some (String.ofList name, String.ofList value))

def itemsFrom (env : Environment) (items : List Item) :
    List (Except EnvFault (List Char)) → Except EnvFault (List Item)
  | [] => .ok items
  | line :: rest => do
    let line ← line
    let item ← item? env items line
    itemsFrom env (items ++ item.toList) rest

def items (env : Environment) (bytes : Text.Bytes) : Except EnvFault (List Item) :=
  itemsFrom env [] (lines bytes)

end EnvFile

end JobReport
