import JobReport.Json.Basic
import JobReport.Json.Float
import JobReport.Text.Quoted

/-!
# Faults in a JSON text or tree

A text may end too early, break the grammar, or hold a tree that does not fit the record it is
read as. The last kind can also be found in a tree that is already at hand.
-/

set_option autoImplicit false

namespace JobReport

/-- What was being read when a text ended. -/
inductive Unfinished where
  | value
  | list
  | object
  | string
  deriving DecidableEq, Repr

/-- Breaches of the grammar. -/
inductive Malformed where
  | expectedValue
  | expectedIdentifier
  | expectedColon
  | expectedCommaOrBracket
  | expectedCommaOrBrace
  | trailingComma
  | trailingCharacters
  | nameNotString
  | invalidNumber
  | numberOutOfRange
  | invalidEscape
  | controlCharacter
  | loneSurrogate
  | brokenSurrogatePair
  | nestedTooDeep
  deriving DecidableEq, Repr

/-- The kind of tree that was found where another was wanted. -/
inductive Found where
  | null
  | bool (b : Bool)
  | int (n : Int)
  | float (bits : UInt64)
  | str (s : String)
  | list
  | object
  deriving DecidableEq, Repr

/-- Ways in which a tree does not fit a record. -/
inductive Mismatch where
  | wrongKind (found : Found) (wanted : String)
  | outOfRange (n : Int) (wanted : String)
  | notOneMember
  | wrongLength (length : Nat) (wanted : String)
  | unknownName (name : String) (known : List String)
  | missing (field : String)
  | repeated (field : String)
  | badUuid
  deriving DecidableEq, Repr

inductive Fault where
  | unfinished (what : Unfinished)
  | malformed (what : Malformed)
  | mismatch (what : Mismatch)
  deriving DecidableEq, Repr

def Unfinished.message : Unfinished → String
  | .value => "EOF while parsing a value"
  | .list => "EOF while parsing a list"
  | .object => "EOF while parsing an object"
  | .string => "EOF while parsing a string"

def Malformed.message : Malformed → String
  | .expectedValue => "expected value"
  | .expectedIdentifier => "expected ident"
  | .expectedColon => "expected `:`"
  | .expectedCommaOrBracket => "expected `,` or `]`"
  | .expectedCommaOrBrace => "expected `,` or `\x7d`"
  | .trailingComma => "trailing comma"
  | .trailingCharacters => "trailing characters"
  | .nameNotString => "key must be a string"
  | .invalidNumber => "invalid number"
  | .numberOutOfRange => "number out of range"
  | .invalidEscape => "invalid escape"
  | .controlCharacter => "control character (\\u0000-\\u001F) found while parsing a string"
  | .loneSurrogate => "lone leading surrogate in hex escape"
  | .brokenSurrogatePair => "unexpected end of hex escape"
  | .nestedTooDeep => "recursion limit exceeded"

namespace Found

def ofJson : Json → Found
  | .null => .null
  | .bool b => .bool b
  | .int n => .int n.val
  | .float bits => .float bits
  | .str s => .str s
  | .arr _ => .list
  | .obj _ => .object

def describe : Found → String
  | .null => "null"
  | .bool b => "boolean `" ++ (if b then "true" else "false") ++ "`"
  | .int n => "integer `" ++ toString n ++ "`"
  | .float bits => "floating point `" ++ String.ofList (floatChars bits) ++ "`"
  | .str s => "string " ++ Text.quoted s
  | .list => "sequence"
  | .object => "map"

end Found

/-- The names that would have been accepted. -/
def listNames : List String → String
  | [] => "there are no variants"
  | [a] => "expected `" ++ a ++ "`"
  | [a, b] => "expected `" ++ a ++ "` or `" ++ b ++ "`"
  | names => "expected one of " ++ ", ".intercalate (names.map fun name => "`" ++ name ++ "`")

def Mismatch.message : Mismatch → String
  | .wrongKind found wanted => "invalid type: " ++ found.describe ++ ", expected " ++ wanted
  | .outOfRange n wanted =>
    "invalid value: " ++ (Found.int n).describe ++ ", expected " ++ wanted
  | .notOneMember => "invalid value: map, expected map with a single key"
  | .wrongLength length wanted => "invalid length " ++ toString length ++ ", expected " ++ wanted
  | .unknownName name known => "unknown variant `" ++ name ++ "`, " ++ listNames known
  | .missing field => "missing field `" ++ field ++ "`"
  | .repeated field => "duplicate field `" ++ field ++ "`"
  | .badUuid => "UUID parsing failed"

namespace Fault

def message : Fault → String
  | .unfinished what => what.message
  | .malformed what => what.message
  | .mismatch what => what.message

end Fault

end JobReport
