/-!
# Percent-encoding

Bytes as percent signs with two hexadecimal digits.  A text is encoded character by
character: those that may stand as they are do, and the UTF-8 bytes of the others are
written as codes.  `Percent.decode` gives the bytes that a text denotes.  Decoding what
was encoded gives the UTF-8 bytes of the text.
-/

namespace CloudOperator

namespace Percent

/-- A byte as a code. -/
def encodeByte (b : UInt8) : List Char :=
  let digit n := (Nat.digitChar n).toUpper
  ['%', digit (b.toNat / 16), digit (b.toNat % 16)]

/-- The characters for one character, which stands as it is if `plain` says so. -/
def encodeChar (plain : Char → Bool) (c : Char) : List Char :=
  if plain c then [c] else (String.utf8EncodeChar c).flatMap encodeByte

/-- A text with codes for all characters that are not plain. -/
def encode (plain : Char → Bool) (cs : List Char) : List Char :=
  cs.flatMap (encodeChar plain)

/-- The value of a hexadecimal digit. -/
def hexDigit? (c : Char) : Option Nat :=
  if '0' ≤ c ∧ c ≤ '9' then some (c.toNat - '0'.toNat)
  else if 'a' ≤ c ∧ c ≤ 'f' then some (c.toNat - 'a'.toNat + 10)
  else if 'A' ≤ c ∧ c ≤ 'F' then some (c.toNat - 'A'.toNat + 10)
  else none

/-- The byte of the two digits of a code. -/
def byte? (high low : Char) : Option UInt8 := do
  return UInt8.ofNat (16 * (← hexDigit? high) + (← hexDigit? low))

/-- The bytes that a text denotes.  A percent sign that begins no code stands for
itself. -/
def decode : List Char → List UInt8
  | [] => []
  | '%' :: high :: low :: rest =>
    match byte? high low with
    | some b => b :: decode rest
    | none => String.utf8EncodeChar '%' ++ decode (high :: low :: rest)
  | c :: rest => String.utf8EncodeChar c ++ decode rest

private theorem hexDigit?_digitChar {n : Nat} (lt : n < 16) :
  hexDigit? (Nat.digitChar n).toUpper = some n
  := by
  have all : ∀ n < 16, hexDigit? (Nat.digitChar n).toUpper = some n := by decide
  exact all n lt

/-- The code of a byte denotes it. -/
theorem decode_encodeByte (b : UInt8) (rest : List Char) :
  decode (encodeByte b ++ rest) = b :: decode rest
  := by
  have high : b.toNat / 16 < 16 := by have := b.toNat_lt; omega
  have low : b.toNat % 16 < 16 := by omega
  have value : UInt8.ofNat (16 * (b.toNat / 16) + b.toNat % 16) = b := by
    rw [Nat.div_add_mod]
    exact UInt8.ofNat_toNat
  simp only [encodeByte, List.cons_append, List.nil_append, decode, byte?,
    hexDigit?_digitChar high, hexDigit?_digitChar low, Option.bind_eq_bind, Option.bind_some,
    Option.pure_def, value]

theorem decode_encodeBytes (bs : List UInt8) (rest : List Char) :
  decode (bs.flatMap encodeByte ++ rest) = bs ++ decode rest
  := by
  induction bs with
  | nil => rfl
  | cons b bs ih => simp [decode_encodeByte, ih]

theorem decode_cons_of_ne {c : Char} (ne : c ≠ '%') (rest : List Char) :
  decode (c :: rest) = String.utf8EncodeChar c ++ decode rest
  := by
  rw [decode]
  rintro _ _ _ rfl
  exact absurd rfl ne

/-- An encoded text denotes the bytes of the text, as long as no percent sign in it
stands as it is. -/
theorem decode_encode
    {plain : Char → Bool} {cs : List Char} (percent : ∀ c ∈ cs, plain c → c ≠ '%') :
  decode (encode plain cs) = cs.flatMap String.utf8EncodeChar
  := by
  induction cs with
  | nil => rfl
  | cons c cs ih =>
    have head : decode (encodeChar plain c ++ encode plain cs) =
        String.utf8EncodeChar c ++ decode (encode plain cs) := by
      unfold encodeChar
      split
      next isPlain => exact decode_cons_of_ne (percent c List.mem_cons_self isPlain) _
      next => exact decode_encodeBytes _ _
    rw [ih fun c mem => percent c (List.mem_cons_of_mem _ mem)] at head
    exact head

end Percent

end CloudOperator
