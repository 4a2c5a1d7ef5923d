/-! Why a text is no JSON. -/
namespace ScriptedInput.Json

inductive Fault where
  | expectedValue
  | expectedIdent
  | invalidNumber
  | numberOutOfRange
  | expectedCommaOrBracket
  | expectedCommaOrBrace
  | trailingComma
  | keyNotString
  | expectedColon
  | controlCharacter
  | invalidEscape
  | loneSurrogate
  | unfinishedPair
  | invalidCodePoint
  | tooDeep
  | trailingCharacters
  deriving DecidableEq, Repr

def Fault.message : Fault → String
  | .expectedValue => "expected value"
  | .expectedIdent => "expected ident"
  | .invalidNumber => "invalid number"
  | .numberOutOfRange => "number out of range"
  | .expectedCommaOrBracket => "expected `,` or `]`"
  | .expectedCommaOrBrace => "expected `,` or `\x7d`"
  | .trailingComma => "trailing comma"
  | .keyNotString => "key must be a string"
  | .expectedColon => "expected `:`"
  | .controlCharacter => "control character (\\u0000-\\u001F) found while parsing a string"
  | .invalidEscape => "invalid escape"
  | .loneSurrogate => "lone leading surrogate in hex escape"
  | .unfinishedPair => "unexpected end of hex escape"
  | .invalidCodePoint => "invalid unicode code point"
  | .tooDeep => "recursion limit exceeded"
  | .trailingCharacters => "trailing characters"

inductive Unfinished where
  | value | list | object | string
  deriving DecidableEq, Repr

def Unfinished.message : Unfinished → String
  | .value => "EOF while parsing a value"
  | .list => "EOF while parsing a list"
  | .object => "EOF while parsing an object"
  | .string => "EOF while parsing a string"

end ScriptedInput.Json
