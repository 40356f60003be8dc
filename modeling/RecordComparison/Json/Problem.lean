import RecordComparison.Reading.Fault

/-!
Why a JSON text is refused: it is not JSON, or it is JSON of another shape than expected.
-/
namespace RecordComparison

inductive Malformation where
  | endInValue
  | endInList
  | endInObject
  | endInString
  | colonExpected
  | listEndExpected
  | objectEndExpected
  | wordExpected
  | valueExpected
  | keyNotString
  | trailingComma
  | trailingCharacters
  | invalidNumber
  | numberOutOfRange
  | invalidEscape
  | controlCharacter
  | loneSurrogate
  | surrogatePairUnfinished
  | tooDeep
deriving DecidableEq

def Malformation.message : Malformation → String
  | endInValue => "EOF while parsing a value"
  | endInList => "EOF while parsing a list"
  | endInObject => "EOF while parsing an object"
  | endInString => "EOF while parsing a string"
  | colonExpected => "expected `:`"
  | listEndExpected => "expected `,` or `]`"
  | objectEndExpected => "expected `,` or `\x7d`"
  | wordExpected => "expected ident"
  | valueExpected => "expected value"
  | keyNotString => "key must be a string"
  | trailingComma => "trailing comma"
  | trailingCharacters => "trailing characters"
  | invalidNumber => "invalid number"
  | numberOutOfRange => "number out of range"
  | invalidEscape => "invalid escape"
  | controlCharacter => "control character (\\u0000-\\u001F) found while parsing a string"
  | loneSurrogate => "lone leading surrogate in hex escape"
  | surrogatePairUnfinished => "unexpected end of hex escape"
  | tooDeep => "recursion limit exceeded"

inductive JsonProblem where
  | malformed (malformation : Malformation)
  | unfit (fault : Fault)
deriving DecidableEq

def jsonWording : Wording := ⟨"null", .json⟩

def JsonProblem.message : JsonProblem → String
  | malformed malformation => malformation.message
  | unfit fault => fault.message jsonWording

end RecordComparison
