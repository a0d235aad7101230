import Safekeep.Number.Shortest
import Safekeep.Text.Quoted

/-!
# Why reading JSON fails

`Fault` is every cause a JSON reader or a typed decoder reports, and `Fault.message` its text.
A fault found while reading text carries the line and the column (in bytes) where the reader
stood; one found while decoding an already parsed value carries none (`Failure.text`).
-/

namespace Safekeep.Json

/-- What a decoder found where it expected something else. -/
inductive Unexpected
  | unit
  | bool (b : Bool)
  | unsigned (n : Nat)
  | signed (i : Int)
  | float (bits : UInt64)
  | str (s : String)
  | seq
  | map
  deriving DecidableEq, Repr

/-- How an unexpected value is named in a message: `null`, a boolean, an integer, a float in its
shortest form, a quoted text, a sequence or a map. -/
def Unexpected.text : Unexpected → String
  | .unit => "null"
  | .bool b => "boolean `" ++ (if b then "true" else "false") ++ "`"
  | .unsigned n => "integer `" ++ toString n ++ "`"
  | .signed i => "integer `" ++ Safekeep.Number.intText i ++ "`"
  | .float bits => "floating point `" ++ Safekeep.Number.floatText .scientific bits ++ "`"
  | .str s => "string " ++ Safekeep.Text.quote s
  | .seq => "sequence"
  | .map => "map"

/-- Every cause of a failed read or decode. -/
inductive Fault
  | eofValue
  | eofList
  | eofObject
  | eofString
  | expectedColon
  | expectedListCommaOrEnd
  | expectedObjectCommaOrEnd
  | expectedIdent
  | expectedValue
  | invalidEscape
  | invalidNumber
  | numberOutOfRange
  | invalidCodePoint
  | controlCharacter
  | keyMustBeString
  | loneLeadingSurrogate
  | unexpectedEndOfHexEscape
  | trailingComma
  | trailingCharacters
  | recursionLimit
  | invalidType (got : Unexpected) (expected : String)
  | invalidValue (got : Unexpected) (expected : String)
  | invalidLength (n : Nat) (expected : String)
  | unknownVariant (name : String) (expected : List String)
  | missingField (name : String)
  | duplicateField (name : String)
  | custom (text : String)
  deriving DecidableEq, Repr

def alternatives : List String → String
  | [] => "there are no variants"
  | [a] => "`" ++ a ++ "`"
  | [a, b] => "`" ++ a ++ "` or `" ++ b ++ "`"
  | names => "one of " ++ ", ".intercalate (names.map fun n => "`" ++ n ++ "`")

/-- The text of a fault. -/
def Fault.message : Fault → String
  | .eofValue => "EOF while parsing a value"
  | .eofList => "EOF while parsing a list"
  | .eofObject => "EOF while parsing an object"
  | .eofString => "EOF while parsing a string"
  | .expectedColon => "expected `:`"
  | .expectedListCommaOrEnd => "expected `,` or `]`"
  | .expectedObjectCommaOrEnd => "expected `,` or `\x7d`"
  | .expectedIdent => "expected ident"
  | .expectedValue => "expected value"
  | .invalidEscape => "invalid escape"
  | .invalidNumber => "invalid number"
  | .numberOutOfRange => "number out of range"
  | .invalidCodePoint => "invalid unicode code point"
  | .controlCharacter => "control character (\\u0000-\\u001F) found while parsing a string"
  | .keyMustBeString => "key must be a string"
  | .loneLeadingSurrogate => "lone leading surrogate in hex escape"
  | .unexpectedEndOfHexEscape => "unexpected end of hex escape"
  | .trailingComma => "trailing comma"
  | .trailingCharacters => "trailing characters"
  | .recursionLimit => "recursion limit exceeded"
  | .invalidType got exp => "invalid type: " ++ got.text ++ ", expected " ++ exp
  | .invalidValue got exp => "invalid value: " ++ got.text ++ ", expected " ++ exp
  | .invalidLength n exp => "invalid length " ++ toString n ++ ", expected " ++ exp
  | .unknownVariant name exp =>
    "unknown variant `" ++ name ++ "`, expected " ++ alternatives exp
  | .missingField name => "missing field `" ++ name ++ "`"
  | .duplicateField name => "duplicate field `" ++ name ++ "`"
  | .custom text => text

/-- A fault with the place in the text where it was found, if it came from text. -/
structure Failure where
  fault : Fault
  place : Option (Nat × Nat) := none
  deriving DecidableEq, Repr

/-- The message of a failure: the fault's text, then `at line L column C` when placed. -/
def Failure.text (f : Failure) : String :=
  match f.place with
  | some (line, col) => f.fault.message ++ " at line " ++ toString line ++ " column " ++ toString col
  | none => f.fault.message

end Safekeep.Json
