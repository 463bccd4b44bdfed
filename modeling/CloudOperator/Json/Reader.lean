import CloudOperator.Json.Basic

/-!
# Reading JSON

The grammar of RFC 8259, in two steps: an automaton cuts a text into tokens, and
a second one, with a stack of the arrays and objects that are still open, builds
the value.  Nesting is not limited here.
-/

namespace CloudOperator

namespace Json

/-- The parts of a JSON text. -/
inductive Token where
  /-- One of the six punctuation characters. -/
  | mark (c : Char)
  /-- A literal that stands for a value. -/
  | value (json : Json)
deriving BEq

/-- The part of a token that the characters read so far belong to.  Characters are
collected in reverse. -/
inductive Scan where
  /-- Between tokens. -/
  | outside
  /-- In a run of letters. -/
  | word (read : List Char)
  /-- In a run of the characters of numbers. -/
  | number (read : List Char)
  /-- In a string literal. -/
  | string (read : List Char) (paired : Bool)
  /-- After the backslash of an escape. -/
  | escape (read : List Char) (paired : Bool)
  /-- In the digits of an escape by number; `high` is the first half of a surrogate
  pair, if one precedes it. -/
  | unicode (read : List Char) (paired : Bool) (high : Option Nat) (code count : Nat)
  /-- After the first half of a surrogate pair. -/
  | afterHigh (read : List Char) (paired : Bool) (high : Nat)
  /-- After a backslash that follows the first half of a surrogate pair. -/
  | escapeAfterHigh (read : List Char) (paired : Bool) (high : Nat)

/-- The value of a hexadecimal digit. -/
def hexDigit? (c : Char) : Option Nat :=
  if '0' ≤ c ∧ c ≤ '9' then some (c.toNat - '0'.toNat)
  else if 'a' ≤ c ∧ c ≤ 'f' then some (c.toNat - 'a'.toNat + 10)
  else if 'A' ≤ c ∧ c ≤ 'F' then some (c.toNat - 'A'.toNat + 10)
  else none

/-- The character that an escape of one letter stands for. -/
def escaped? : Char → Option Char
  | '"' => some '"'
  | '\\' => some '\\'
  | '/' => some '/'
  | 'b' => some '\x08'
  | 'f' => some '\x0c'
  | 'n' => some '\n'
  | 'r' => some '\r'
  | 't' => some '\t'
  | _ => none

/-- The value of a digit character. -/
def digitValue (c : Char) : Nat :=
  c.toNat - '0'.toNat

/-- The number that a list of digits denotes. -/
def ofDigits (digits : List Char) : Nat :=
  digits.foldl (fun n c => 10 * n + digitValue c) 0

/-- The digits before the point; a zero stands alone. -/
def readWhole : List Char → Option (List Char × List Char)
  | '0' :: rest => some (['0'], rest)
  | cs =>
    match cs.takeWhile Char.isDigit with
    | [] => none
    | digits => some (digits, cs.dropWhile Char.isDigit)

/-- The digits after the point, if there is one. -/
def readFraction : List Char → Option (List Char × List Char)
  | '.' :: cs =>
    match cs.takeWhile Char.isDigit with
    | [] => none
    | digits => some (digits, cs.dropWhile Char.isDigit)
  | cs => some ([], cs)

/-- The exponent, if the text has one and nothing after it. -/
def readExponent : List Char → Option (Option Int)
  | [] => some none
  | e :: cs =>
    if e ≠ 'e' ∧ e ≠ 'E' then none
    else
      let (sign, digits) : Int × List Char := match cs with
        | '+' :: digits => (1, digits)
        | '-' :: digits => (-1, digits)
        | digits => (1, digits)
      if digits ≠ [] ∧ digits.all Char.isDigit then some (some (sign * ofDigits digits))
      else none

/-- The value of a number literal. -/
def readNumber (literal : List Char) : Option Json := do
  let (negative, cs) := match literal with
    | '-' :: cs => (true, cs)
    | cs => (false, cs)
  let (whole, cs) ← readWhole cs
  let (fraction, cs) ← readFraction cs
  let exponent ← readExponent cs
  let n := ofDigits whole
  if fraction = [] ∧ exponent = none ∧ ¬ (negative ∧ n = 0) then
    return integer (if negative then -n else n)
  else
    return decimal ⟨negative, n, fraction.map digitValue, exponent.getD 0⟩

/-- The value of a word. -/
def readWord : List Char → Option Json
  | ['n', 'u', 'l', 'l'] => some null
  | ['t', 'r', 'u', 'e'] => some (bool true)
  | ['f', 'a', 'l', 's', 'e'] => some (bool false)
  | _ => none

/-- Whether a character may stand in a number literal. -/
def isNumberChar (c : Char) : Bool :=
  c.isDigit || c == '-' || c == '+' || c == '.' || c == 'e' || c == 'E'

/-- The state and the tokens after a character that follows a complete token. -/
def begin (tokens : List Token) (c : Char) : Option (Scan × List Token) :=
  if c = ' ' ∨ c = '\t' ∨ c = '\n' ∨ c = '\r' then some (.outside, tokens)
  else if c = '[' ∨ c = ']' ∨ c = '\x7b' ∨ c = '\x7d' ∨ c = ',' ∨ c = ':' then
    some (.outside, .mark c :: tokens)
  else if c = '"' then some (.string [] true, tokens)
  else if c.isDigit ∨ c = '-' then some (.number [c], tokens)
  else if c.isAlpha then some (.word [c], tokens)
  else none

/-- The token of a string literal. -/
def textToken (read : List Char) (paired : Bool) : Token :=
  .value (if paired then text (String.ofList read.reverse) else unpaired)

/-- The state after a character inside a string literal. -/
def stepString (tokens : List Token) (read : List Char) (paired : Bool) (c : Char) :
    Option (Scan × List Token) :=
  if c = '"' then some (.outside, textToken read paired :: tokens)
  else if c = '\\' then some (.escape read paired, tokens)
  else if c.toNat < 0x20 then none
  else some (.string (c :: read) paired, tokens)

/-- The state after the four digits of an escape by number. -/
def endUnicode (read : List Char) (paired : Bool) (high : Option Nat) (code : Nat) : Scan :=
  match high with
  | some high =>
    if 0xDC00 ≤ code ∧ code < 0xE000 then
      .string (Char.ofNat (0x10000 + (high - 0xD800) * 0x400 + (code - 0xDC00)) :: read) paired
    else if 0xD800 ≤ code ∧ code < 0xDC00 then .afterHigh read false code
    else .string (Char.ofNat code :: read) false
  | none =>
    if 0xD800 ≤ code ∧ code < 0xDC00 then .afterHigh read paired code
    else if 0xDC00 ≤ code ∧ code < 0xE000 then .string read false
    else .string (Char.ofNat code :: read) paired

/-- The state after one more character.  The tokens are collected in reverse. -/
def step : Scan × List Token → Char → Option (Scan × List Token)
  | (.outside, tokens), c => begin tokens c
  | (.word read, tokens), c =>
    if c.isAlpha then some (.word (c :: read), tokens)
    else do begin (.value (← readWord read.reverse) :: tokens) c
  | (.number read, tokens), c =>
    if isNumberChar c then some (.number (c :: read), tokens)
    else do begin (.value (← readNumber read.reverse) :: tokens) c
  | (.string read paired, tokens), c => stepString tokens read paired c
  | (.escape read paired, tokens), c =>
    if c = 'u' then some (.unicode read paired none 0 0, tokens)
    else do return (.string ((← escaped? c) :: read) paired, tokens)
  | (.unicode read paired high code count, tokens), c => do
    let code := 16 * code + (← hexDigit? c)
    if count < 3 then return (.unicode read paired high code (count + 1), tokens)
    else return (endUnicode read paired high code, tokens)
  | (.afterHigh read paired high, tokens), c =>
    if c = '\\' then some (.escapeAfterHigh read paired high, tokens)
    else stepString tokens read false c
  | (.escapeAfterHigh read paired high, tokens), c =>
    if c = 'u' then some (.unicode read paired (some high) 0 0, tokens)
    else do return (.string ((← escaped? c) :: read) false, tokens)

/-- The tokens of a text. -/
def tokenize (cs : List Char) : Option (List Token) := do
  match ← cs.foldlM step (.outside, []) with
  | (.outside, tokens) => return tokens.reverse
  | (.word read, tokens) => return (.value (← readWord read.reverse) :: tokens).reverse
  | (.number read, tokens) => return (.value (← readNumber read.reverse) :: tokens).reverse
  | _ => none

/-- An array or an object that is not closed yet; what it holds is collected in
reverse.  An object is not `sound` once one of its names stood for no text. -/
inductive Frame where
  | array (items : List Json)
  | object (members : List (String × Json)) (sound : Bool) (name : String)

/-- What may follow in a JSON text. -/
inductive Expect where
  /-- A value. -/
  | value
  /-- The first item of an array or its end. -/
  | firstItem
  /-- The first name of an object or its end. -/
  | firstName
  /-- A name. -/
  | name
  /-- The colon after a name. -/
  | colon
  /-- A comma or the end of what is open. -/
  | next
  /-- Nothing more, since the value is complete. -/
  | nothing (json : Json)

/-- A value put into the innermost open array or object. -/
def close (json : Json) : List Frame → Expect × List Frame
  | [] => (.nothing json, [])
  | .array items :: frames => (.next, .array (json :: items) :: frames)
  | .object members sound name :: frames =>
    (.next, .object ((name, json) :: members) sound name :: frames)

/-- The value of an object that is complete. -/
def objectOf (members : List (String × Json)) (sound : Bool) : Json :=
  if sound then object members.reverse else unpaired

/-- The state after the beginning of a value. -/
def openValue (frames : List Frame) : Token → Option (Expect × List Frame)
  | .value json => some (close json frames)
  | .mark '[' => some (.firstItem, .array [] :: frames)
  | .mark '\x7b' => some (.firstName, .object [] true "" :: frames)
  | .mark _ => none

/-- The state after a name in an object. -/
def openName (frames : List Frame) : Token → Option (Expect × List Frame)
  | .value (.text name) =>
    match frames with
    | .object members sound _ :: frames => some (.colon, .object members sound name :: frames)
    | _ => none
  | .value .unpaired =>
    match frames with
    | .object members _ _ :: frames => some (.colon, .object members false "" :: frames)
    | _ => none
  | _ => none

/-- The state after one more token. -/
def build : Expect × List Frame → Token → Option (Expect × List Frame)
  | (.value, frames), token => openValue frames token
  | (.firstItem, .array [] :: frames), .mark ']' => some (close (array []) frames)
  | (.firstItem, frames), token => openValue frames token
  | (.firstName, .object [] _ _ :: frames), .mark '\x7d' => some (close (object []) frames)
  | (.firstName, frames), token => openName frames token
  | (.name, frames), token => openName frames token
  | (.colon, frames), .mark ':' => some (.value, frames)
  | (.next, .array items :: frames), .mark ',' => some (.value, .array items :: frames)
  | (.next, .array items :: frames), .mark ']' => some (close (array items.reverse) frames)
  | (.next, .object members sound name :: frames), .mark ',' =>
    some (.name, .object members sound name :: frames)
  | (.next, .object members sound _ :: frames), .mark '\x7d' =>
    some (close (objectOf members sound) frames)
  | _, _ => none

/-- The value that a text denotes, if it is a JSON text. -/
def read (text : String) : Option Json := do
  let tokens ← tokenize text.toList
  match ← tokens.foldlM build (.value, []) with
  | (.nothing json, []) => return json
  | _ => none

end Json

end CloudOperator
