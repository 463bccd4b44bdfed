import CloudOperator.Http.Percent
import CloudOperator.Text.Pieces

/-!
# Addresses

Addresses of the schemes `http` and `https`, read after the URL standard: a slash
and a backslash both separate the segments of the path, a segment of one dot is
dropped, one of two dots takes the segment before it along, and what may not stand in
a path is percent-encoded.  The authority, which names the host, is kept as it is
written.
-/

namespace CloudOperator

/-- An address. -/
structure Url where
  scheme : String
  /-- The part that names the host. -/
  authority : String
  /-- The segments of the path, encoded. -/
  path : List String
  /-- What follows the first question mark, encoded. -/
  query : Option String
  /-- What follows the first hash sign, encoded; it is not sent. -/
  fragment : Option String
deriving DecidableEq, Repr

namespace Url

/-- Whether a character is dropped at the ends of an address. -/
def isMargin (c : Char) : Bool :=
  c.toNat ≤ 0x20

/-- Whether a character is dropped everywhere in an address. -/
def isLineBreak (c : Char) : Bool :=
  c == '\t' || c == '\n' || c == '\r'

/-- The characters of an address that count. -/
def significant (text : String) : List Char :=
  let cs := text.toList.dropWhile isMargin
  ((cs.reverse.dropWhile isMargin).reverse).filter fun c => ¬ isLineBreak c

/-- Whether a character separates segments. -/
def isSeparator (c : Char) : Bool :=
  c == '/' || c == '\\'

/-- Whether a character stands as it is in a path. -/
def isPlainInPath (c : Char) : Bool :=
  0x20 < c.toNat && c.toNat < 0x7F
    && ¬ ['"', '#', '<', '>', '?', '^', '\x60', '\x7b', '\x7d'].contains c

/-- Whether a character stands as it is in a query. -/
def isPlainInQuery (c : Char) : Bool :=
  0x20 < c.toNat && c.toNat < 0x7F && ¬ ['"', '#', '<', '>', '\x27'].contains c

/-- Whether a character stands as it is in a fragment. -/
def isPlainInFragment (c : Char) : Bool :=
  0x20 < c.toNat && c.toNat < 0x7F && ¬ ['"', '<', '>', '\x60'].contains c

/-- A segment with encoded dots written as dots, in lower case. -/
def withoutEncodedDots : List Char → List Char
  | '%' :: '2' :: c :: rest =>
    if c = 'e' ∨ c = 'E' then '.' :: withoutEncodedDots rest
    else '%' :: '2' :: withoutEncodedDots (c :: rest)
  | c :: rest => c :: withoutEncodedDots rest
  | [] => []

/-- Whether a segment means the place itself. -/
def isSingleDot (segment : List Char) : Bool :=
  withoutEncodedDots segment = ['.']

/-- Whether a segment means the place above. -/
def isDoubleDot (segment : List Char) : Bool :=
  withoutEncodedDots segment = ['.', '.']

/-- The characters before the first one that satisfies `p`, and those after it, if
there is one. -/
def cut (p : Char → Bool) : List Char → List Char × Option (List Char)
  | [] => ([], none)
  | c :: cs =>
    if p c then ([], some cs)
    else
      let (before, after) := cut p cs
      (c :: before, after)

/-- The segments of a path, those read so far in reverse.  A path that ends with a dot
segment ends with an empty one. -/
def resolveSegments (read : List (List Char)) : List (List Char) → List (List Char)
  | [] => read.reverse
  | [last] =>
    if isDoubleDot last then ([] :: read.tail).reverse
    else if isSingleDot last then ([] :: read).reverse
    else (last :: read).reverse
  | segment :: rest =>
    if isDoubleDot segment then resolveSegments read.tail rest
    else if isSingleDot segment then resolveSegments read rest
    else resolveSegments (segment :: read) rest

/-- The encoded segments of a path, given without its first separator. -/
def readPath (cs : List Char) : List String :=
  (resolveSegments [] (pieces isSeparator cs)).map fun segment =>
    String.ofList (Percent.encode isPlainInPath segment)

/-- The scheme at the head of an address, and what follows the slashes after it. -/
def readScheme (cs : List Char) : Option (String × List Char) :=
  match cut (· == ':') cs with
  | (scheme, some rest) =>
    let scheme := String.ofList (scheme.map Char.toLower)
    if scheme = "http" ∨ scheme = "https" then some (scheme, rest.dropWhile isSeparator) else none
  | _ => none

/-- The address that a text denotes, if it has a host. -/
def read (text : String) : Option Url := do
  let (scheme, rest) ← readScheme (significant text)
  let (rest, fragment) := cut (· == '#') rest
  let (place, query) := cut (· == '?') rest
  let (authority, path) := cut isSeparator place
  if authority = [] then none
  else
    return {
      scheme
      authority := String.ofList authority
      path := readPath (path.getD [])
      query := query.map fun cs => String.ofList (Percent.encode isPlainInQuery cs)
      fragment := fragment.map fun cs => String.ofList (Percent.encode isPlainInFragment cs) }

/-- The path as it is sent. -/
def pathText (u : Url) : String :=
  String.join (u.path.map ("/" ++ ·))

end Url

end CloudOperator
