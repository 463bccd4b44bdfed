/-!
# Request targets

What a request asks a server for: a path, after a scheme and an authority or without
them, and a query after it.  The characters of a target are sent as they are, so more
of them may stand in it than in an address.
-/

namespace CloudOperator

namespace Target

/-- The length in bytes that no target exceeds. -/
abbrev maxLength : Nat := 65534

/-- Whether a path ends before the character. -/
def isPathEnd (c : Char) : Bool :=
  c == '?' || c == '#'

/-- Whether a character may stand in a path: a visible one of ASCII other than the
backtick and the angle brackets, or any beyond. -/
def isPathChar (c : Char) : Bool :=
  0x20 < c.toNat && ¬ ['\x60', '<', '>'].contains c

/-- Whether a character may stand in a query: a visible one of ASCII other than the
quote and the angle brackets, or any beyond. -/
def isQueryChar (c : Char) : Bool :=
  0x20 < c.toNat && ¬ ['"', '<', '>'].contains c

/-- The path at the head of characters, if all of them up to a hash sign may stand where
they do. -/
def readPath (cs : List Char) : Option String :=
  let path := cs.takeWhile fun c => ¬ isPathEnd c
  let query := (cs.drop path.length).takeWhile (· ≠ '#')
  if path.all isPathChar ∧ query.all isQueryChar then some (String.ofList path) else none

/-- Whether a character may stand in a scheme. -/
def isSchemeChar (c : Char) : Bool :=
  c.isAlphanum || c == '+' || c == '-' || c == '.'

/-- The characters after the scheme and the authority at the head of a target.  The
authority must not be empty. -/
def afterAuthority? (cs : List Char) : Option (List Char) :=
  match cs.dropWhile isSchemeChar with
  | ':' :: '/' :: '/' :: rest =>
    let after := rest.dropWhile fun c => ¬ (c == '/' || isPathEnd c)
    if after = rest then none else some after
  | _ => none

/-- The path of a target, if the target can be sent and has one.  A query and what
follows a hash sign are no part of it. -/
def path? (target : String) : Option String :=
  if target.utf8ByteSize ≤ maxLength then
    match target.toList with
    | '/' :: rest => readPath ('/' :: rest)
    | cs => (afterAuthority? cs).bind readPath
  else none

/-- A path whose characters may stand in it and do not end it is that of the target with
nothing but an empty query after it. -/
theorem path?_append_mark {path : String} (starts : path.toList.head? = some '/')
    (plain : ∀ c ∈ path.toList, isPathChar c = true ∧ isPathEnd c = false)
    (short : path.utf8ByteSize < maxLength) :
  path? (path ++ "?") = some path
  := by
  obtain ⟨rest, form⟩ : ∃ rest, path.toList = '/' :: rest := by
    cases h : path.toList <;> simp_all
  have whole : (path.toList ++ ['?']).takeWhile (fun c => decide ¬ isPathEnd c = true)
      = path.toList := by
    rw [List.takeWhile_append_of_pos (by simpa using fun c h => (plain c h).2)]
    simp [isPathEnd]
  have fits : (path ++ "?").utf8ByteSize ≤ maxLength := by
    have : "?".utf8ByteSize = 1 := rfl
    simp only [String.utf8ByteSize_append]
    omega
  have read : readPath (path.toList ++ ['?']) = some path := by
    simp only [readPath, whole, List.drop_left]
    rw [if_pos ⟨List.all_eq_true.2 fun c h => (plain c h).1, by decide⟩, String.ofList_toList]
  have chars : (path ++ "?").toList = '/' :: (rest ++ ['?']) := by
    simp [form]
  rw [form, List.cons_append] at read
  simp only [path?, if_pos fits, chars, read]

end Target

end CloudOperator
