/-!
# Faults in JSON text

A `Fault` says what is wrong with a JSON text and where: it keeps the text from the fault on
and the number of its bytes that the place of the fault takes in.  `Fault.locate` turns this
into a line and a column of the whole text, the column counted in bytes, and
`Located.message` into words.
-/

namespace ApiTypes.Json

/-- What is wrong with a JSON text. -/
inductive Cause where
  | endOfValue
  | endOfList
  | endOfObject
  | endOfString
  | expectedColon
  | expectedCommaOrBracket
  | expectedCommaOrBrace
  | expectedIdent
  | expectedValue
  | invalidEscape
  | invalidNumber
  | numberOutOfRange
  | controlCharacter
  | loneSurrogate
  | unfinishedSurrogatePair
  | keyNotString
  | trailingComma
  | trailingCharacters
  | tooDeep
deriving DecidableEq

/-- The words for a cause. -/
def Cause.message : Cause → String
  | .endOfValue => "EOF while parsing a value"
  | .endOfList => "EOF while parsing a list"
  | .endOfObject => "EOF while parsing an object"
  | .endOfString => "EOF while parsing a string"
  | .expectedColon => "expected `:`"
  | .expectedCommaOrBracket => "expected `,` or `]`"
  | .expectedCommaOrBrace => "expected `,` or `\x7d`"
  | .expectedIdent => "expected ident"
  | .expectedValue => "expected value"
  | .invalidEscape => "invalid escape"
  | .invalidNumber => "invalid number"
  | .numberOutOfRange => "number out of range"
  | .controlCharacter => "control character (\\u0000-\\u001F) found while parsing a string"
  | .loneSurrogate => "lone leading surrogate in hex escape"
  | .unfinishedSurrogatePair => "unexpected end of hex escape"
  | .keyNotString => "key must be a string"
  | .trailingComma => "trailing comma"
  | .trailingCharacters => "trailing characters"
  | .tooDeep => "recursion limit exceeded"

/-- A cause with the text from the fault on and the number of bytes of it that the place of
the fault takes in. -/
structure Fault where
  cause : Cause
  rest : List Char
  bytes : Nat
deriving DecidableEq

/-- The fault in front of a text. -/
def Fault.before (cause : Cause) (rest : List Char) : Fault :=
  ⟨cause, rest, 0⟩

/-- The fault at the first byte of a text. -/
def Fault.at (cause : Cause) (rest : List Char) : Fault :=
  ⟨cause, rest, 1⟩

/-! ### Lines and columns -/

/-- A place in a text: the number of its line and the number of bytes before it on that
line. -/
structure Position where
  line : Nat
  column : Nat
deriving DecidableEq

/-- The number of bytes of a text in UTF-8. -/
def byteLength (text : List Char) : Nat :=
  text.foldl (fun total c => total + c.utf8Size) 0

/-- The place reached from `p` by going `bytes` bytes into a text, or to its end. -/
def Position.advance (p : Position) (bytes : Nat) : List Char → Position
  | [] => p
  | c :: rest =>
    if bytes < c.utf8Size then { p with column := p.column + bytes }
    else if c = '\n' then Position.advance ⟨p.line + 1, 0⟩ (bytes - 1) rest
    else Position.advance { p with column := p.column + c.utf8Size } (bytes - c.utf8Size) rest

/-- A cause with the place of its fault. -/
structure Located where
  cause : Cause
  position : Position
deriving DecidableEq

/-- The place of a fault in the text that it was found in. -/
def Fault.locate (fault : Fault) (text : List Char) : Located :=
  let start := byteLength text - byteLength fault.rest
  ⟨fault.cause, Position.advance ⟨1, 0⟩ (start + fault.bytes) text⟩

/-- The words for a fault and its place. -/
def Located.message (fault : Located) : String :=
  fault.cause.message ++ " at line " ++ Nat.repr fault.position.line ++
    " column " ++ Nat.repr fault.position.column

end ApiTypes.Json
