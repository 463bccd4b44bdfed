import CloudOperator.Http.Percent

/-!
# Forms

The text of a form: its fields with their values, joined by ampersands.  A space is
a plus sign, and only letters, digits and four punctuation marks stand as they are.
-/

namespace CloudOperator

namespace Form

/-- Whether a character stands as it is. -/
def isPlain (c : Char) : Bool :=
  c.isAlphanum || c == '*' || c == '-' || c == '.' || c == '_'

/-- A name or a value in a form. -/
def encodeText (text : String) : String :=
  String.ofList <| text.toList.flatMap fun c =>
    if c = ' ' then ['+'] else Percent.encodeChar isPlain c

/-- The text of a form. -/
def encode (fields : List (String × String)) : String :=
  "&".intercalate (fields.map fun (name, value) => encodeText name ++ "=" ++ encodeText value)

end Form

end CloudOperator
