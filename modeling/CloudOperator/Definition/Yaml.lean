import CloudOperator.Json.Writer

/-!
# Block style YAML

A JSON value as a YAML document: objects and arrays as blocks, a text as it stands
where no reader can take it for anything else, between single quotes otherwise, and
as a literal block where it has several lines.
-/

namespace CloudOperator

namespace Yaml

/-- The words that stand for a truth value or for nothing. -/
def reservedWords : List String :=
  ["", "~", "null", "Null", "NULL", "true", "True", "TRUE", "false", "False", "FALSE"]

/-- Whether a text could be taken for a number. -/
def looksNumeric (cs : List Char) : Bool :=
  let digits := match cs with
    | '-' :: rest | '+' :: rest => rest
    | _ => cs
  match digits with
  | '.' :: c :: _ => c.isDigit
  | c :: _ => c.isDigit && digits.all fun c => c.isAlphanum || c == '.' || c == '-' || c == '+'
  | [] => false

/-- Whether a character at the beginning of a text gives it a meaning. -/
def isIndicator (c : Char) : Bool :=
  ['#', ',', '[', ']', '\x7b', '\x7d', '&', '*', '!', '|', '>', '\'', '"', '%', '@', '`'].contains c

/-- Whether a colon before a blank or a number sign after one makes a text mean
something else. -/
def hasInnerMark : List Char → Bool
  | [] => false
  | [c] => c == ':'
  | c :: d :: rest =>
    (c == ':' && isBlankChar d) || (isBlankChar c && d == '#') || hasInnerMark (d :: rest)
where
  isBlankChar (c : Char) : Bool := c == ' ' || c == '\t'

/-- Whether a text of one line can stand without quotes. -/
def isPlain (text : String) : Bool :=
  let cs := text.toList
  let starts := match cs with
    | c :: rest =>
      if c == '-' || c == '?' || c == ':' then
        match rest with
        | d :: _ => d != ' '
        | [] => false
      else ¬ isIndicator c && c != ' '
    | [] => false
  starts && ¬ reservedWords.contains text && ¬ looksNumeric cs && ¬ hasInnerMark cs
    && cs.getLast? != some ' '

/-- A text between single quotes. -/
def singleQuoted (text : String) : String :=
  "'" ++ String.ofList (text.toList.flatMap fun c => if c = '\'' then [c, c] else [c]) ++ "'"

/-- The lines of a text. -/
def linesOf (text : String) : List String :=
  text.splitOn "\n"

/-- A line two places to the right; an empty line stays empty. -/
def indented (line : String) : String :=
  if line = "" then "" else "  " ++ line

/-- A text after a name or a dash, with the lines below it. -/
def writeText (text : String) : List String :=
  match linesOf text with
  | [_] => [if isPlain text then text else singleQuoted text]
  | lines => "|-" :: lines.map indented

/-- The lines of a value with a text before the first. -/
def attach (before : String) : List String → List String
  | [] => [before]
  | line :: lines => (before ++ line) :: lines

mutual

/-- The lines of a value. -/
def lines : Json → List String
  | .null => ["null"]
  | .bool value => [if value then "true" else "false"]
  | .integer value => [toString value]
  | .decimal literal => [Json.writeDecimal literal]
  | .text value => writeText value
  | .unpaired => ["null"]
  | .array [] => ["[]"]
  | .object [] => ["\x7b\x7d"]
  | .array (item :: items) => linesOfItems (item :: items)
  | .object (member :: members) => linesOfMembers (member :: members)

/-- The lines of the items of an array. -/
def linesOfItems : List Json → List String
  | [] => []
  | item :: items =>
    let below := match item with
      | .text value => writeText value
      | _ => match lines item with
        | line :: rest => line :: rest.map indented
        | [] => []
    attach "- " below ++ linesOfItems items

/-- The lines of the members of an object. -/
def linesOfMembers : List (String × Json) → List String
  | [] => []
  | (name, value) :: members =>
    let own := match value with
      | .array (_ :: _) => (name ++ ":") :: lines value
      | .object (_ :: _) => (name ++ ":") :: (lines value).map indented
      | _ => attach (name ++ ": ") (lines value)
    own ++ linesOfMembers members

end

/-- The document of a value. -/
def document (json : Json) : String :=
  String.join ((lines json).map (· ++ "\n"))

end Yaml

end CloudOperator
