/-
Reading JSON text.  The grammar is strict; containers nest at most 127 deep; of
a repeated key the first place and the last value are kept.  A fault says what
is wrong and where.
-/
import JsonSelect.Json.Basic
import JsonSelect.Json.Number
import JsonSelect.Json.Writer
import JsonSelect.Sum
import JsonSelect.Text.Blank
import JsonSelect.Text.Property

namespace JsonSelect.Json

/-- Why a text is no JSON value. -/
inductive Cause where
  | endOfValue
  | endOfList
  | endOfObject
  | endOfString
  | expectedValue
  | expectedIdentifier
  | expectedColon
  | expectedListEnd
  | expectedObjectEnd
  | keyNotString
  | trailingComma
  | trailingCharacters
  | invalidNumber
  | numberOutOfRange
  | invalidEscape
  | controlCharacter
  | loneSurrogate
  | unfinishedSurrogate
  | tooDeep
deriving DecidableEq

def Cause.message : Cause → String
  | endOfValue => "EOF while parsing a value"
  | endOfList => "EOF while parsing a list"
  | endOfObject => "EOF while parsing an object"
  | endOfString => "EOF while parsing a string"
  | expectedValue => "expected value"
  | expectedIdentifier => "expected ident"
  | expectedColon => "expected `:`"
  | expectedListEnd => "expected `,` or `]`"
  | expectedObjectEnd => "expected `,` or `\x7d`"
  | keyNotString => "key must be a string"
  | trailingComma => "trailing comma"
  | trailingCharacters => "trailing characters"
  | invalidNumber => "invalid number"
  | numberOutOfRange => "number out of range"
  | invalidEscape => "invalid escape"
  | controlCharacter => "control character (\\u0000-\\u001F) found while parsing a string"
  | loneSurrogate => "lone leading surrogate in hex escape"
  | unfinishedSurrogate => "unexpected end of hex escape"
  | tooDeep => "recursion limit exceeded"

/-- A cause, and the text from where it was noticed. -/
structure Fault where
  cause : Cause
  rest : List Char
deriving DecidableEq

/-- Why no value is read from a text, or none of a type from a value. -/
inductive Error where
  /-- The line is told, and the column of the byte at fault, or of the last byte if
  the text ended. -/
  | malformed (cause : Cause) (line column : Nat)
  | wrongKind (found : Json) (wanted : String)
  | outOfRange (found : Json) (wanted : String)

/-- The place of a fault in the text that was read. -/
def Fault.toError (fault : Fault) (text : List Char) : Error :=
  let before := text.take (text.length - fault.rest.length)
  let lastLine := before.reverse.takeWhile (· ≠ '\n')
  let bytes := byteLength lastLine
  .malformed fault.cause (before.count '\n' + 1)
    (if fault.rest.isEmpty then bytes else bytes + 1)

/-- The characters that nothing is seen of where they stand alone. -/
def hidden : CharSet :=
  .unionAll [Category.separator, Category.other, Property.graphemeExtend]

/-- The answer for ASCII is given without the table. -/
def isHidden (c : Char) : Bool :=
  if c.toNat < 128 then c < ' ' || c = '\x7f' else hidden.contains c

/-- How a character stands in a text that an error quotes. -/
def quote (c : Char) : List Char :=
  if c = '"' ∨ c = '\\' then ['\\', c]
  else if c = '\n' then ['\\', 'n']
  else if c = '\r' then ['\\', 'r']
  else if c = '\t' then ['\\', 't']
  else if c = '\x00' then ['\\', '0']
  else if isHidden c then
    ['\\', 'u', '\x7b'] ++ (Numeral.digits 16 c.toNat).map Numeral.digitChar ++ ['\x7d']
  else [c]

/-- What a value is called that is not of the type it is read as. -/
def outline : Json → List Char
  | .null => "null".toList
  | .bool value => "boolean `".toList ++ (bool value).write ['`']
  | .number (.integer value h) =>
      "integer `".toList ++ (number (.integer value h)).write ['`']
  | .number (.float x) => "floating point `".toList ++ (number (.float x)).write ['`']
  | .string value => "string \"".toList ++ value.toList.flatMap quote ++ ['"']
  | .array _ => "sequence".toList
  | .object _ => "map".toList

def Error.message : Error → String
  | malformed cause line column =>
      String.ofList (cause.message.toList ++ " at line ".toList ++ Numeral.ofNat line ++
        " column ".toList ++ Numeral.ofNat column)
  | wrongKind found wanted =>
      String.ofList ("invalid type: ".toList ++ found.outline ++ ", expected ".toList ++
        wanted.toList)
  | outOfRange found wanted =>
      String.ofList ("invalid value: ".toList ++ found.outline ++ ", expected ".toList ++
        wanted.toList)

/-- What a reader makes of a text: a value and the text after it, or a fault. -/
inductive Reading (α : Type) where
  | ok (value : α) (rest : List Char)
  | error (fault : Fault)

namespace Reading

/-- Goes on with the value and the text after it. -/
def bind {α β : Type} : Reading α → (α → List Char → Reading β) → Reading β
  | .ok value rest, next => next value rest
  | .error fault, _ => .error fault

def map {α β : Type} (f : α → β) : Reading α → Reading β
  | .ok value rest => .ok (f value) rest
  | .error fault => .error fault

end Reading

/-- Reads the rest of a word such as `null`. -/
def readWord (value : Json) : List Char → List Char → Reading Json
  | [], text => .ok value text
  | _ :: _, [] => .error ⟨.endOfValue, []⟩
  | w :: word, c :: text =>
      if c = w then readWord value word text else .error ⟨.expectedIdentifier, c :: text⟩

/-- One digit or more after a point or in an exponent. -/
def readDigits (text : List Char) : Reading (List Nat) :=
  match Numeral.span text with
  | ([], []) => .error ⟨.endOfValue, []⟩
  | ([], rest) => .error ⟨.invalidNumber, rest⟩
  | (ds, rest) => .ok ds rest

/-- The digits after a point, if there is one. -/
def readFraction : List Char → Reading (Option (List Nat))
  | '.' :: text => (readDigits text).map some
  | text => .ok none text

/-- The exponent, if there is one. -/
def readExponent : List Char → Reading (Option Int)
  | [] => .ok none []
  | c :: text =>
      if c = 'e' ∨ c = 'E' then
        match text with
        | '-' :: text =>
            (readDigits text).map fun ds => some (-(Numeral.ofDigits 10 ds : Int))
        | '+' :: text => (readDigits text).map fun ds => some (Numeral.ofDigits 10 ds)
        | text => (readDigits text).map fun ds => some (Numeral.ofDigits 10 ds)
      else .ok none (c :: text)

/-- A number from its first digit on.  A zero stands alone before the point. -/
def readNumber (negative : Bool) (text : List Char) : Reading Json :=
  match Numeral.span text with
  | ([], []) => .error ⟨.endOfValue, []⟩
  | ([], text) => .error ⟨.invalidNumber, text⟩
  | (0 :: _ :: _, rest) => .error ⟨.invalidNumber, rest⟩
  | (whole, rest) =>
      (readFraction rest).bind fun fraction rest =>
      (readExponent rest).bind fun exponent rest =>
        match numberOf? negative whole fraction exponent with
        | some value => .ok (.number value) rest
        | none => .error ⟨.numberOutOfRange, text.drop (text.length - rest.length - 1)⟩

/-- Four hexadecimal digits, which need four bytes of text. -/
def readHex4 (text : List Char) : Reading Nat :=
  if byteLength text < 4 then .error ⟨.endOfString, []⟩
  else match text with
    | a :: b :: c :: d :: rest =>
        match [a, b, c, d].mapM Numeral.hexadecimal? with
        | some ds => .ok (Numeral.ofDigits 16 ds) rest
        | none => .error ⟨.invalidEscape, text⟩
    | _ => .error ⟨.invalidEscape, text⟩

/-- The character of two surrogates, from the escape of the second on. -/
def readLowSurrogate (high : Nat) : List Char → Reading Char
  | [] => .error ⟨.endOfString, []⟩
  | ['\\'] => .error ⟨.endOfString, []⟩
  | '\\' :: 'u' :: text =>
      (readHex4 text).bind fun low rest =>
        if 0xDC00 ≤ low ∧ low ≤ 0xDFFF then
          .ok (Char.ofNat (0x10000 + (high - 0xD800) * 0x400 + (low - 0xDC00))) rest
        else .error ⟨.loneSurrogate, text.drop 3⟩
  | '\\' :: text => .error ⟨.unfinishedSurrogate, text⟩
  | text => .error ⟨.unfinishedSurrogate, text⟩

/-- The character of a `u` escape, from its digits on.  A character beyond four digits is
written as two escapes, a high and a low surrogate. -/
def readUnicode (text : List Char) : Reading Char :=
  (readHex4 text).bind fun code rest =>
    if 0xDC00 ≤ code ∧ code ≤ 0xDFFF then .error ⟨.loneSurrogate, text.drop 3⟩
    else if 0xD800 ≤ code ∧ code ≤ 0xDBFF then readLowSurrogate code rest
    else .ok (Char.ofNat code) rest

/-- The character that an escape stands for, from the one after the backslash on. -/
def readEscape : List Char → Reading Char
  | [] => .error ⟨.endOfString, []⟩
  | '"' :: text => .ok '"' text
  | '\\' :: text => .ok '\\' text
  | '/' :: text => .ok '/' text
  | 'b' :: text => .ok '\x08' text
  | 'f' :: text => .ok '\x0c' text
  | 'n' :: text => .ok '\n' text
  | 'r' :: text => .ok '\r' text
  | 't' :: text => .ok '\t' text
  | 'u' :: text => readUnicode text
  | text => .error ⟨.invalidEscape, text⟩

/-- The characters of a string up to its closing quote.  The first argument bounds their
number, and the text's length is enough. -/
def readChars : Nat → List Char → Reading (List Char)
  | 0, text => .error ⟨.endOfString, text⟩
  | _ + 1, [] => .error ⟨.endOfString, []⟩
  | bound + 1, c :: text =>
      if c = '"' then .ok [] text
      else if c = '\\' then
        (readEscape text).bind fun c text => (readChars bound text).map (c :: ·)
      else if c < ' ' then .error ⟨.controlCharacter, c :: text⟩
      else (readChars bound text).map (c :: ·)

/-- A string after its opening quote. -/
def readString (text : List Char) : Reading String :=
  (readChars (text.length + 1) text).map String.ofList

/-- The elements that follow one, up to the closing bracket. -/
def readElements (element : List Char → Reading Json) :
    Nat → List Char → Reading (List Json)
  | 0, text => .error ⟨.endOfList, text⟩
  | bound + 1, text =>
      match skipBlanks text with
      | [] => .error ⟨.endOfList, []⟩
      | ']' :: text => .ok [] text
      | ',' :: text =>
          match skipBlanks text with
          | [] => .error ⟨.endOfValue, []⟩
          | ']' :: text => .error ⟨.trailingComma, ']' :: text⟩
          | text =>
              (element text).bind fun value text =>
                (readElements element bound text).map (value :: ·)
      | text => .error ⟨.expectedListEnd, text⟩

/-- An array after its opening bracket. -/
def readArray (element : List Char → Reading Json) (text : List Char) : Reading Json :=
  match skipBlanks text with
  | [] => .error ⟨.endOfList, []⟩
  | ']' :: text => .ok (.array []) text
  | text =>
      (element text).bind fun value text =>
        (readElements element (text.length + 1) text).map fun values =>
          .array (value :: values)

/-- A member from its key's opening quote on. -/
def readMember (element : List Char → Reading Json) : List Char → Reading (String × Json)
  | '"' :: text =>
      (readString text).bind fun key text =>
        match skipBlanks text with
        | [] => .error ⟨.endOfObject, []⟩
        | ':' :: text => (element text).map fun value => (key, value)
        | text => .error ⟨.expectedColon, text⟩
  | text => .error ⟨.keyNotString, text⟩

/-- The members that follow the given ones, up to the closing brace. -/
def readMembers (element : List Char → Reading Json) :
    Nat → Members → List Char → Reading Members
  | 0, _, text => .error ⟨.endOfObject, text⟩
  | bound + 1, members, text =>
      match skipBlanks text with
      | [] => .error ⟨.endOfObject, []⟩
      | '\x7d' :: text => .ok members text
      | ',' :: text =>
          match skipBlanks text with
          | [] => .error ⟨.endOfValue, []⟩
          | '\x7d' :: text => .error ⟨.trailingComma, '\x7d' :: text⟩
          | text =>
              (readMember element text).bind fun member text =>
                readMembers element bound (members.put member.1 member.2) text
      | text => .error ⟨.expectedObjectEnd, text⟩

/-- An object after its opening brace. -/
def readObject (element : List Char → Reading Json) (text : List Char) : Reading Json :=
  match skipBlanks text with
  | [] => .error ⟨.endOfObject, []⟩
  | '\x7d' :: text => .ok (.object []) text
  | text =>
      (readMember element text).bind fun member text =>
        (readMembers element (text.length + 1) [member] text).map .object

/-- A value, given how the contents of a container are read, or that none
may be entered. -/
def readWith (element : Option (List Char → Reading Json)) (text : List Char) :
    Reading Json :=
  match skipBlanks text with
  | [] => .error ⟨.endOfValue, []⟩
  | 'n' :: text => readWord .null ['u', 'l', 'l'] text
  | 't' :: text => readWord (.bool true) ['r', 'u', 'e'] text
  | 'f' :: text => readWord (.bool false) ['a', 'l', 's', 'e'] text
  | '"' :: text => (readString text).map .string
  | '-' :: text => readNumber true text
  | '[' :: text =>
      match element with
      | some element => readArray element text
      | none => .error ⟨.tooDeep, '[' :: text⟩
  | '\x7b' :: text =>
      match element with
      | some element => readObject element text
      | none => .error ⟨.tooDeep, '\x7b' :: text⟩
  | c :: text =>
      if (Numeral.decimal? c).isSome then readNumber false (c :: text)
      else .error ⟨.expectedValue, c :: text⟩

/-- A value whose containers nest no deeper than the given number. -/
def readValue : Nat → List Char → Reading Json
  | 0 => readWith none
  | depth + 1 => readWith (some (readValue depth))

/-- The deepest nesting of containers that is read. -/
def maxDepth : Nat := 127

/-- Reads a text that holds one value and blanks around it. -/
def parse (text : List Char) : Except Fault Json :=
  match readValue maxDepth text with
  | .ok value rest =>
      match skipBlanks rest with
      | [] => .ok value
      | rest => .error ⟨.trailingCharacters, rest⟩
  | .error fault => .error fault

def ofText? (text : String) : Except Error Json :=
  (parse text.toList).mapError (·.toError text.toList)

end JsonSelect.Json
