import CallFlow.Json.Value
import CallFlow.Text.Quoted

/-! Why a JSON text or value is refused: the text is malformed, or a value is not of the kind that
is wanted. -/

namespace CallFlow.Json
set_option autoImplicit false

inductive Fault
  | endInList
  | endInObject
  | endInString
  | endInValue
  | expectedColon
  | expectedListEnd
  | expectedObjectEnd
  | expectedWord
  | expectedValue
  | invalidEscape
  | invalidNumber
  | numberOutOfRange
  | controlCharacter
  | nameNotString
  | loneSurrogate
  | unfinishedSurrogate
  | trailingComma
  | trailingCharacters
  | nestingTooDeep
deriving DecidableEq, Repr

def Fault.message : Fault → String
  | .endInList => "EOF while parsing a list"
  | .endInObject => "EOF while parsing an object"
  | .endInString => "EOF while parsing a string"
  | .endInValue => "EOF while parsing a value"
  | .expectedColon => "expected `:`"
  | .expectedListEnd => "expected `,` or `]`"
  | .expectedObjectEnd => "expected `,` or `\x7d`"
  | .expectedWord => "expected ident"
  | .expectedValue => "expected value"
  | .invalidEscape => "invalid escape"
  | .invalidNumber => "invalid number"
  | .numberOutOfRange => "number out of range"
  | .controlCharacter => "control character (\\u0000-\\u001F) found while parsing a string"
  | .nameNotString => "key must be a string"
  | .loneSurrogate => "lone leading surrogate in hex escape"
  | .unfinishedSurrogate => "unexpected end of hex escape"
  | .trailingComma => "trailing comma"
  | .trailingCharacters => "trailing characters"
  | .nestingTooDeep => "recursion limit exceeded"

/-- A value as far as a reader that wants a scalar looks into it. -/
inductive Head
  | null
  | bool (b : Bool)
  | number (n : Number)
  | string (s : String)
  | array
  | object
deriving DecidableEq

def Value.head : Value → Head
  | .null => .null
  | .bool b => .bool b
  | .number n => .number n
  | .string s => .string s
  | .array _ => .array
  | .object _ => .object

def Head.message : Head → String
  | .null => "null"
  | .bool b => if b then "boolean `true`" else "boolean `false`"
  | .number n@(.int _) => "integer `" ++ String.ofList n.text ++ "`"
  | .number n@(.real _) => "floating point `" ++ String.ofList n.text ++ "`"
  | .string s => "string " ++ Text.quoted s
  | .array => "sequence"
  | .object => "map"

inductive Kind
  | string
  | boolean
  | word32
  | word64
  | real
  | list
  | object
  | record (name : String)
  | unit
  | choice
  | choiceName
  | choiceWithValue
  | choiceWithFields
deriving DecidableEq, Repr

def Kind.message : Kind → String
  | .string => "a string"
  | .boolean => "a boolean"
  | .word32 => "u32"
  | .word64 => "usize"
  | .real => "f64"
  | .list => "a sequence"
  | .object => "a map"
  | .record name => "struct " ++ name
  | .unit => "unit"
  | .choice => "string or map"
  | .choiceName => "variant identifier"
  | .choiceWithValue => "newtype variant"
  | .choiceWithFields => "struct variant"

/-- A well-formed value that is not what is wanted in its place. -/
inductive Mismatch
  | wrongKind (found : Head) (wanted : Kind)
  | bareChoice (wanted : Kind)
  | outOfRange (n : Number) (wanted : Kind)
  | notOneChoice
  | unknownChoice (name : String) (known : List String)
  | missingField (name : String)
  | duplicateField (name : String)
  | tooFewItems (index : Nat) (record : String) (fields : Nat)
  | tooManyItems (count : Nat)
  | notTextOrNumber (text : String)
deriving DecidableEq

def alternatives (names : List String) : String :=
  let quoted := names.map fun name => "`" ++ name ++ "`"
  match quoted with
  | [one] => one
  | [one, other] => one ++ " or " ++ other
  | _ => "one of " ++ ", ".intercalate quoted

def Mismatch.message : Mismatch → String
  | .wrongKind found wanted => "invalid type: " ++ found.message ++ ", expected " ++ wanted.message
  | .bareChoice wanted => "invalid type: unit variant, expected " ++ wanted.message
  | .outOfRange n wanted =>
    "invalid value: " ++ (Head.number n).message ++ ", expected " ++ wanted.message
  | .notOneChoice => "invalid value: map, expected map with a single key"
  | .unknownChoice name known =>
    "unknown variant `" ++ name ++ "`, expected " ++ alternatives known
  | .missingField name => "missing field `" ++ name ++ "`"
  | .duplicateField name => "duplicate field `" ++ name ++ "`"
  | .tooFewItems index record fields =>
    "invalid length " ++ toString index ++ ", expected struct " ++ record ++ " with " ++
      toString fields ++ (if fields = 1 then " element" else " elements")
  | .tooManyItems count =>
    "invalid length " ++ toString count ++ ", expected fewer elements in array"
  | .notTextOrNumber text => "expected text or a number, found " ++ text

/-- Why a text is refused by a reader that wants a certain kind of value. -/
inductive Error
  | malformed (fault : Fault)
  | mismatch (mismatch : Mismatch)
deriving DecidableEq

def Error.message : Error → String
  | .malformed f => f.message
  | .mismatch m => m.message

end CallFlow.Json
