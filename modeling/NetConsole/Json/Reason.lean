import NetConsole.Json.Printer
import NetConsole.Text.Quoted

/-!
# Why a JSON text is refused

The causes for which reading a text stops, each with its wording.
-/

set_option autoImplicit false

namespace NetConsole.Json

/-- What was found where a value of another type was due. -/
inductive Found where
  | null
  | bool (value : Bool)
  | number (value : Number)
  | string (value : String)
  | sequence
  | map
  deriving DecidableEq, Repr, Inhabited

/-- The words for a value of a wrong type. -/
def Found.message : Found → String
  | .null => "null"
  | .bool value => "boolean `" ++ toString value ++ "`"
  | .number (.integer i) => "integer `" ++ String.ofList (integerChars i) ++ "`"
  | .number (.fraction x) => "floating point `" ++ String.ofList (fractionChars x) ++ "`"
  | .string s => "string " ++ Text.quoted s
  | .sequence => "sequence"
  | .map => "map"

inductive Reason where
  | endOfValue
  | endOfList
  | endOfObject
  | endOfString
  | valueDue
  | identDue
  | colonDue
  | itemSeparatorDue
  | memberSeparatorDue
  | trailingComma
  | trailingCharacters
  | keyNotString
  | invalidNumber
  | numberOutOfRange
  | invalidEscape
  | controlInString
  | loneSurrogate
  | endOfHexEscape
  | tooDeep
  | missingField (name : String)
  | duplicateField (name : String)
  | invalidType (found : Found) (expected : String)
  | invalidInteger (value : Int) (expected : String)
  | keyNotNumber
  | keyNotClosed
  | unknownVariant (name : String) (expected : List String)
  | invalidLength (count : Nat) (name : String) (fields : Nat)
  deriving DecidableEq, Repr, Inhabited

/-- The names that were allowed, each between backquotes: one alone, two with `or` between them,
more as a list. -/
def allowedNames : List String → String
  | [] => "there are no variants"
  | [a] => "expected `" ++ a ++ "`"
  | [a, b] => "expected `" ++ a ++ "` or `" ++ b ++ "`"
  | names => "expected one of " ++ ", ".intercalate (names.map fun name => "`" ++ name ++ "`")

def Reason.message : Reason → String
  | .endOfValue => "EOF while parsing a value"
  | .endOfList => "EOF while parsing a list"
  | .endOfObject => "EOF while parsing an object"
  | .endOfString => "EOF while parsing a string"
  | .valueDue => "expected value"
  | .identDue => "expected ident"
  | .colonDue => "expected `:`"
  | .itemSeparatorDue => "expected `,` or `]`"
  | .memberSeparatorDue => "expected `,` or `\x7d`"
  | .trailingComma => "trailing comma"
  | .trailingCharacters => "trailing characters"
  | .keyNotString => "key must be a string"
  | .invalidNumber => "invalid number"
  | .numberOutOfRange => "number out of range"
  | .invalidEscape => "invalid escape"
  | .controlInString => "control character (\\u0000-\\u001F) found while parsing a string"
  | .loneSurrogate => "lone leading surrogate in hex escape"
  | .endOfHexEscape => "unexpected end of hex escape"
  | .tooDeep => "recursion limit exceeded"
  | .missingField name => "missing field `" ++ name ++ "`"
  | .duplicateField name => "duplicate field `" ++ name ++ "`"
  | .invalidType found expected => "invalid type: " ++ found.message ++ ", expected " ++ expected
  | .invalidInteger value expected =>
      "invalid value: integer `" ++ String.ofList (integerChars value) ++ "`, expected " ++ expected
  | .keyNotNumber => "invalid value: expected key to be a number in quotes"
  | .keyNotClosed => "expected `\"`"
  | .unknownVariant name expected =>
      "unknown variant `" ++ name ++ "`, " ++ allowedNames expected
  | .invalidLength count name fields =>
      "invalid length " ++ toString count ++ ", expected struct " ++ name ++ " with " ++
        toString fields ++ (if fields = 1 then " element" else " elements")

end NetConsole.Json
