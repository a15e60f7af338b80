/-
Reading paths.  Each reader takes what belongs to it off the front of a text.
Predicates stand inside steps, and steps inside predicates, so the readers of
steps are given a reader of predicates; the circle is closed by `readUnary`,
whose first argument bounds how deep predicates nest.
-/
import JsonSelect.Path.Basic
import JsonSelect.Path.Quoted
import JsonSelect.Sum
import JsonSelect.Text.Alphanumeric
import JsonSelect.Text.Blank

namespace JsonSelect.Path

open Reader

/-- The characters of a name that needs no quotes. -/
def isNameChar (c : Char) : Bool :=
  isAlphanumeric c || c = '_' || c = '-'

/-- One name character or more. -/
def readName : Reader String := fun text =>
  match text.span isNameChar with
  | ([], _) => .miss
  | (name, rest) => .ok (String.ofList name) rest

/-- Blanks around the given characters, which are taken with them. -/
def separator (cs : List Char) : Reader Unit := fun text =>
  (word cs (skipBlanks text)).bind fun _ rest => .ok () (skipBlanks rest)

/-- A sign, if there is one, and whether it makes a number negative. -/
def readSign : List Char → Bool × List Char
  | '-' :: text => (true, text)
  | '+' :: text => (false, text)
  | text => (false, text)

/-- An integer that 64 bits hold with its sign. -/
def readInteger : Reader Int64 := fun text =>
  let (negative, digitsOn) := readSign text
  let (digits, rest) := Numeral.span digitsOn
  let value : Int := Numeral.ofDigits 10 digits
  if digits.isEmpty then .miss
  else
    match int64? (if negative then -value else value) with
    | some i => .ok i rest
    | none => .miss

def readItem : Reader Item := fun text =>
  ((Quoted.read text).map Item.key).orElse fun _ => (readInteger text).map Item.index

/-- Items with commas between them.  A comma that no item follows is left. -/
def readItems : Reader (List Item) := fun text =>
  (readItem text).bind fun first text =>
    (many (fun text => (separator [','] text).bind fun _ text => readItem text)
      text.length text).map (first :: ·)

/-- A colon and what stands around it, the bounds, and the step if there is a
second colon. -/
def readSlice : Reader Slice := fun text =>
  (optional readInteger text).bind fun start text =>
  (separator [':'] text).bind fun _ text =>
  (optional readInteger text).bind fun stop text =>
  (optional (separator [':']) text).bind fun colon text =>
    match colon with
    | none => .ok ⟨start, stop, 1, by decide⟩ text
    | some _ =>
        (optional readInteger text).bind fun step rest =>
          match Slice.of? start stop (step.getD 1) with
          | some slice => .ok slice rest
          | none => .fail (some ⟨.invalidSliceStep, text⟩)

/-- A list of one item is the step of that item. -/
def stepOfItems : List Item → Step
  | [.key name] => .key name
  | [.index position] => .index position
  | items => .union items

/-- What stands between brackets. -/
def readBody (predicate : Reader Predicate) : Reader Step
  | '*' :: text => .ok .wildcard text
  | '?' :: text => (expect .invalidFilter predicate (skipBlanks text)).map .filter
  | text =>
      ((readSlice text).map Step.slice).orElse fun _ => (readItems text).map stepOfItems

def readBracket (predicate : Reader Predicate) : Reader Step
  | '[' :: text =>
      (expect .invalidBracket (readBody predicate)
        (skipBlanks text)).bind fun step text =>
      (expect .unclosedBracket (char ']') (skipBlanks text)).map fun _ => step
  | _ => .miss

/-- What may follow a dot. -/
def readChild (predicate : Reader Predicate) : Reader Step
  | '*' :: text => .ok .wildcard text
  | text => (readBracket predicate text).orElse fun _ => (readName text).map Step.key

/-- The steps of two dots, of one dot, or of brackets. -/
def readSegment (predicate : Reader Predicate) : Reader (List Step)
  | '.' :: '.' :: text =>
      (expect .missingStepAfterDescent (readChild predicate) text).map fun step =>
        [.descent, step]
  | '.' :: text =>
      (expect .missingStepAfterDot (readChild predicate) text).map fun step => [step]
  | text => (readBracket predicate text).map fun step => [step]

def readSteps (predicate : Reader Predicate) : Reader (List Step) := fun text =>
  (many (readSegment predicate) text.length text).map List.flatten

/-- The digits after a point, if there is one. -/
def readFraction : List Char → Option (List Nat) × List Char
  | '.' :: text => (some (Numeral.span text).1, (Numeral.span text).2)
  | text => (none, text)

/-- The exponent, if there is one.  An `e` without digits is a failure. -/
def readExponent : Reader (Option Int)
  | c :: text =>
      if c = 'e' ∨ c = 'E' then
        let (negative, digitsOn) := readSign text
        match Numeral.span digitsOn with
        | ([], _) => .fail none
        | (digits, rest) =>
            let value : Int := Numeral.ofDigits 10 digits
            .ok (some (if negative then -value else value)) rest
      else .ok none (c :: text)
  | [] => .ok none []

/-- The number of a sign, digits, and what follows them.  With neither point nor
exponent it is an integer where 64 bits hold it. -/
def numberOf? (negative : Bool) (whole : List Nat) (fraction : Option (List Nat))
    (exponent : Option Int) : Option Number :=
  let fractionDigits := fraction.getD []
  let digits := Numeral.ofDigits 10 (whole ++ fractionDigits)
  let scaled :=
    Number.ofDecimal? negative digits (exponent.getD 0 - fractionDigits.length)
  if fraction.isNone ∧ exponent.isNone then
    (Number.ofInt? (if negative then -digits else digits)).or scaled
  else scaled

/-- A number literal has a digit before the point or after it.  A number beyond all
doubles is none. -/
def readNumber : Reader Number := fun text =>
  let (negative, digitsOn) := readSign text
  let (whole, rest) := Numeral.span digitsOn
  let (fraction, rest) := readFraction rest
  if whole.isEmpty ∧ (fraction.getD []).isEmpty then .miss
  else
    (readExponent rest).bind fun exponent rest =>
      match numberOf? negative whole fraction exponent with
      | some number => .ok number rest
      | none => .miss

/-- A word that no name character follows. -/
def readKeyword (cs : List Char) (value : Scalar) : Reader Scalar := fun text =>
  (word cs text).bind fun _ rest =>
    match rest with
    | c :: _ => if isNameChar c then .miss else .ok value rest
    | [] => .ok value rest

def readLiteral : Reader Scalar := fun text =>
  (readKeyword ['n', 'u', 'l', 'l'] .null text)
    <|> readKeyword ['t', 'r', 'u', 'e'] (.bool true) text
    <|> readKeyword ['f', 'a', 'l', 's', 'e'] (.bool false) text
    <|> (Quoted.read text).map Scalar.string
    <|> (readNumber text).map Scalar.number

def readOperand (predicate : Reader Predicate) : Reader Operand
  | '$' :: text => (readSteps predicate text).map (.path .root)
  | '@' :: text => (readSteps predicate text).map (.path .current)
  | text => (readLiteral text).map .literal

/-- The source of a pattern up to the closing slash.  A backslash keeps the character
after it from closing, and is dropped only before a slash. -/
def readSource : List Char → Option (List Char × List Char)
  | [] => none
  | '/' :: text => some ([], text)
  | ['\\'] => none
  | '\\' :: c :: text =>
      (readSource text).map fun (source, rest) =>
        (if c = '/' then (c :: source, rest) else ('\\' :: c :: source, rest))
  | c :: text => (readSource text).map fun (source, rest) => (c :: source, rest)

/-- The flags that follow a pattern. -/
def readFlags : List Char → List Flag × List Char
  | [] => ([], [])
  | c :: text =>
      match Flag.ofLetter? c with
      | some flag => (flag :: (readFlags text).1, (readFlags text).2)
      | none => ([], c :: text)

def readPattern : Reader Pattern
  | '/' :: text =>
      match readSource text with
      | none => .fail (some ⟨.unterminatedRegex, '/' :: text⟩)
      | some (source, rest) =>
          let (flags, rest) := readFlags rest
          match Pattern.of? (String.ofList source) flags with
          | some pattern => .ok pattern rest
          | none => .fail (some ⟨.invalidRegex, '/' :: text⟩)
  | _ => .miss

def readComparison : Reader Comparison
  | '=' :: '=' :: text => .ok .equal text
  | '!' :: '=' :: text => .ok .notEqual text
  | '<' :: '=' :: text => .ok .lessOrEqual text
  | '<' :: text => .ok .less text
  | '>' :: '=' :: text => .ok .greaterOrEqual text
  | '>' :: text => .ok .greater text
  | _ => .miss

/-- What may follow an operand, as the predicate that it makes of it. -/
def readRelation (predicate : Reader Predicate) :
    Reader (Operand → Predicate) := fun text =>
  match skipBlanks text with
  | '=' :: '~' :: text =>
      (expect .missingRegex readPattern (skipBlanks text)).map fun pattern left =>
        .matching left pattern
  | text =>
      (readComparison text).bind fun comparison text =>
        (expect .missingOperand (readOperand predicate) (skipBlanks text)).map
          fun right left => .compare comparison left right

/-- An operand alone or in relation to another or to a pattern. -/
def readRelated (predicate : Reader Predicate) : Reader Predicate := fun text =>
  (readOperand predicate text).bind fun left text =>
    (optional (readRelation predicate) text).map fun relation =>
      match relation with
      | some relation => relation left
      | none => .bare left

/-- Predicates with a connective between them, nested to the left. -/
def readChain (connective : List Char) (missing : Cause)
    (join : Predicate → Predicate → Predicate) (part : Reader Predicate) :
    Reader Predicate :=
  fun text =>
    (part text).bind fun first text =>
      (many
        (fun text => (separator connective text).bind fun _ text =>
          expect missing part text)
        text.length text).map (List.foldl join first)

/-- A conjunction binds its parts closer than a disjunction. -/
def readPredicate (unary : Reader Predicate) : Reader Predicate :=
  readChain ['|', '|'] .missingAlternative .or
    (readChain ['&', '&'] .missingConjunct .and unary)

/-- A negation, a predicate in parentheses, or operands. -/
def readUnary : Nat → Reader Predicate
  | 0, _ => .miss
  | _ + 1, [] => .miss
  | bound + 1, c :: text =>
      if c = '!' then
        (expect .missingNegated (readUnary bound) (skipBlanks text)).map .not
      else if c = '(' then
        (readPredicate (readUnary bound) (skipBlanks text)).commit.bind
          fun predicate text =>
            (expect .unclosedParenthesis (char ')') (skipBlanks text)).map
              fun _ => predicate
      else readRelated (readPredicate (readUnary bound)) (c :: text)

/-- A path with blanks around it. -/
def readRoot (predicate : Reader Predicate) : Reader Path := fun text =>
  (expect .missingRoot (char '$') (skipBlanks text)).bind fun _ text =>
    (readSteps predicate text).bind fun steps text => .ok ⟨steps⟩ (skipBlanks text)

/-- Reads a text that holds one path and blanks around it. -/
def parse (text : List Char) : Except Fault Path :=
  match readRoot (readPredicate (readUnary text.length)) text with
  | .ok path [] => .ok path
  | .ok _ rest => .error ⟨.trailingCharacters, rest⟩
  | .miss => .error ⟨.missingRoot, text⟩
  | .fail fault => .error (fault.getD ⟨.missingRoot, text⟩)

/-- Why a text is no path, and how many of its bytes come before the place that
this is told of. -/
structure Error where
  cause : Cause
  position : Nat
deriving DecidableEq

def Fault.toError (fault : Fault) (text : List Char) : Error :=
  ⟨fault.cause, byteLength text - byteLength fault.rest⟩

def Error.message (error : Error) : String :=
  String.ofList ("at position ".toList ++ Numeral.ofNat error.position ++ ", ".toList ++
    error.cause.message.toList)

def ofText? (text : String) : Except Error Path :=
  (parse text.toList).mapError (·.toError text.toList)

end JsonSelect.Path
