import CloudOperator.Http.Url

/-!
# Reading addresses

An address is put together from a scheme, an authority and a path, none of which holds a
character that ends it.  Such an address is read back part by part, and it has neither a query nor
a fragment (`Url.read_compose`).

The path is sent as it was put together where its characters are plain (`Url.IsPlainPath.pathText`):
no segment of it is dropped, and only the last segment, which may hold any characters but
separators and percent signs, is percent-encoded.  What that segment denotes is the text that was
encoded (`Percent.text?_encode`).
-/

namespace CloudOperator

namespace Percent

/-- The text that a percent-encoded text denotes, if the bytes are those of a text. -/
def text? (text : String) : Option String :=
  String.fromUTF8? (decode text.toList).toByteArray

/-- An encoded text denotes the text, as long as no percent sign in it stands as it is. -/
theorem text?_encode {plain : Char → Bool} {text : String} (percent : '%' ∉ text.toList) :
  text? (String.ofList (encode plain text.toList)) = some text
  := by
  have bytes : (decode (encode plain text.toList)).toByteArray = text.toByteArray := by
    rw [decode_encode fun c inside _ same => percent (same ▸ inside), ← List.utf8Encode,
      ← String.toByteArray_ofList, String.ofList_toList]
  rw [text?, String.toList_ofList, bytes, String.fromUTF8?, dif_pos text.isValidUTF8]
  rfl

/-- No slash comes from codes. -/
theorem slash_notMem_encode {plain : Char → Bool} {cs : List Char} (none : '/' ∉ cs) :
  '/' ∉ encode plain cs
  := by
  have digit {n : Nat} (lt : n < 16) : '/' ≠ (Nat.digitChar n).toUpper := by
    have all : ∀ n < 16, '/' ≠ (Nat.digitChar n).toUpper := by decide
    exact all n lt
  intro found
  obtain ⟨c, inside, found⟩ := List.mem_flatMap.mp found
  rw [encodeChar] at found
  split at found
  · exact none (List.mem_singleton.mp found ▸ inside)
  · obtain ⟨b, -, found⟩ := List.mem_flatMap.mp found
    have high : b.toNat / 16 < 16 := by have := b.toNat_lt; omega
    have low : b.toNat % 16 < 16 := by omega
    simp only [encodeByte, List.mem_cons, List.not_mem_nil, or_false] at found
    obtain ⟨⟨⟩⟩ | same | same := found
    · exact digit high same
    · exact digit low same

/-- A text of plain characters stands as it is. -/
theorem encode_eq {plain : Char → Bool} {cs : List Char} (all : ∀ c ∈ cs, plain c = true) :
  encode plain cs = cs
  := by
  induction cs with
  | nil => rfl
  | cons c cs ih =>
    rw [encode, List.flatMap_cons, encodeChar, if_pos (all c List.mem_cons_self)]
    rw [encode] at ih
    rw [ih fun c' inside => all c' (List.mem_cons_of_mem c inside)]
    rfl

end Percent

namespace Url

/-! ## Parts of an address -/

theorem cut_eq {p : Char → Bool} {cs : List Char} (whole : ∀ c ∈ cs, p c = false) :
  cut p cs = (cs, none)
  := by
  induction cs with
  | nil => rfl
  | cons c cs ih =>
    rw [cut, if_neg (by simp [whole c List.mem_cons_self]),
      ih fun c' inside => whole c' (List.mem_cons_of_mem c inside)]

theorem cut_append {p : Char → Bool} {cs : List Char} (whole : ∀ c ∈ cs, p c = false) {b : Char}
    (ends : p b = true) (rest : List Char) :
  cut p (cs ++ b :: rest) = (cs, some rest)
  := by
  induction cs with
  | nil => rw [List.nil_append, cut, if_pos ends]
  | cons c cs ih =>
    rw [List.cons_append, cut, if_neg (by simp [whole c List.mem_cons_self]),
      ih fun c' inside => whole c' (List.mem_cons_of_mem c inside)]

theorem isMargin_of_isLineBreak {c : Char} (breaks : isLineBreak c = true) :
  isMargin c = true
  := by
  simp only [isLineBreak, Bool.or_eq_true, beq_iff_eq] at breaks
  obtain (rfl | rfl) | rfl := breaks <;> rfl

/-- All characters count where none is dropped at the ends of an address. -/
theorem significant_eq {text : String} (inside : ∀ c ∈ text.toList, isMargin c = false) :
  significant text = text.toList
  := by
  have keeps {cs : List Char} (inside : ∀ c ∈ cs, isMargin c = false) :
      cs.dropWhile isMargin = cs := by
    cases cs with
    | nil => rfl
    | cons c cs => rw [List.dropWhile_cons_of_neg (by simp [inside c List.mem_cons_self])]
  rw [significant, keeps inside, keeps fun c found => inside c (List.mem_reverse.mp found),
    List.reverse_reverse, List.filter_eq_self]
  intro c found
  simp only [decide_eq_true_eq, Bool.not_eq_true]
  apply Bool.eq_false_iff.mpr
  intro breaks
  cases (isMargin_of_isLineBreak breaks).symm.trans (inside c found)

/-! ## Addresses -/

/-- The text is a scheme that can be read, in letters of either case. -/
def IsScheme (scheme : String) : Prop :=
  let lower := String.ofList (scheme.toList.map Char.toLower)
  lower = "http" ∨ lower = "https"

/-- The text can stand for a host: no character of it ends it or is dropped. -/
structure IsAuthority (authority : String) : Prop where
  present : authority.toList ≠ []
  inside : ∀ c ∈ authority.toList,
    isMargin c = false ∧ isSeparator c = false ∧ c ≠ '?' ∧ c ≠ '#'

theorem IsAuthority.of_all {authority : String} (present : authority.toList ≠ [])
    (inside : (authority.toList.all fun c =>
      !isMargin c && !isSeparator c && c != '?' && c != '#') = true) :
  IsAuthority authority
  where
  present := present
  inside c found := by
    have holds := List.all_eq_true.mp inside c found
    simpa [and_assoc] using holds

/-- A character can stand in a path: it does not end it, and it is not dropped. -/
def IsInPath (c : Char) : Prop :=
  isMargin c = false ∧ c ≠ '?' ∧ c ≠ '#'

theorem toLower_of_isMargin {c : Char} (margin : isMargin c = true) :
  c.toLower = c
  := by
  have all : ∀ n ≤ 0x20, (Char.ofNat n).toLower = Char.ofNat n := by decide
  rw [← Char.ofNat_toNat c]
  exact all _ (by simpa [isMargin] using margin)

/-- A scheme holds nothing that ends it, and nothing that is dropped. -/
theorem IsScheme.inside {scheme : String} (h : IsScheme scheme) :
  ∀ c ∈ scheme.toList, isMargin c = false ∧ (c == ':') = false
  := by
  intro c found
  have letters : ∀ name ∈ ["http", "https"],
      (name.toList.all fun d => !isMargin d && d != ':') = true := by decide
  have among : c.toLower ∈ scheme.toList.map Char.toLower := List.mem_map_of_mem found
  have known : String.ofList (scheme.toList.map Char.toLower) ∈ ["http", "https"] := by
    simpa [IsScheme] using h
  have lower : isMargin c.toLower = false ∧ c.toLower ≠ ':' := by
    rw [← String.toList_ofList (l := scheme.toList.map Char.toLower)] at among
    simpa using List.all_eq_true.mp (letters _ known) _ among
  obtain ⟨visible, other⟩ := lower
  constructor
  · apply Bool.eq_false_iff.mpr
    intro margin
    rw [toLower_of_isMargin margin, margin] at visible
    cases visible
  · rw [beq_eq_false_iff_ne]
    rintro rfl
    apply other rfl

variable {scheme authority : String} {path : List Char}

/-- An address that is put together. -/
def compose (scheme authority : String) (path : List Char) : String :=
  scheme ++ "://" ++ authority ++ String.ofList ('/' :: path)

theorem toList_compose (scheme authority : String) (path : List Char) :
  (compose scheme authority path).toList =
    scheme.toList ++ ':' :: '/' :: '/' :: (authority.toList ++ '/' :: path)
  := by
  simp [compose]

theorem readScheme_compose (isScheme : IsScheme scheme) (isAuthority : IsAuthority authority)
    (inside : ∀ c ∈ path, IsInPath c) :
  readScheme (significant (compose scheme authority path)) =
    some (String.ofList (scheme.toList.map Char.toLower), authority.toList ++ '/' :: path)
  := by
  have visible : ∀ c ∈ (compose scheme authority path).toList, isMargin c = false := by
    simp only [toList_compose, List.mem_append, List.mem_cons]
    rintro c (found | rfl | rfl | rfl | found | rfl | found)
    · exact (isScheme.inside c found).1
    · rfl
    · rfl
    · rfl
    · exact (isAuthority.inside c found).1
    · rfl
    · exact (inside c found).1
  obtain ⟨first, others, begins⟩ := List.exists_cons_of_ne_nil isAuthority.present
  have head : isSeparator first = false :=
    (isAuthority.inside first (begins ▸ List.mem_cons_self)).2.1
  have separated : ('/' :: '/' :: (authority.toList ++ '/' :: path)).dropWhile isSeparator =
      authority.toList ++ '/' :: path := by
    rw [List.dropWhile_cons_of_pos rfl, List.dropWhile_cons_of_pos rfl, begins, List.cons_append,
      List.dropWhile_cons_of_neg (by simp [head])]
  rw [significant_eq visible, toList_compose, readScheme,
    cut_append (fun c found => (isScheme.inside c found).2) rfl]
  dsimp only
  rw [if_pos, separated]
  exact isScheme

/-- An address is read back part by part. -/
theorem read_compose (isScheme : IsScheme scheme) (isAuthority : IsAuthority authority)
    (inside : ∀ c ∈ path, IsInPath c) :
  read (compose scheme authority path) =
    some {
      scheme := String.ofList (scheme.toList.map Char.toLower)
      authority
      path := readPath path
      query := none
      fragment := none }
  := by
  have rest : ∀ c ∈ authority.toList ++ '/' :: path, c ≠ '?' ∧ c ≠ '#' := by
    simp only [List.mem_append, List.mem_cons]
    rintro c (found | rfl | found)
    · exact (isAuthority.inside c found).2.2
    · decide
    · exact (inside c found).2
  have unfragmented : cut (· == '#') (authority.toList ++ '/' :: path) = (_, none) :=
    cut_eq fun c found => beq_false_of_ne (rest c found).2
  have unqueried : cut (· == '?') (authority.toList ++ '/' :: path) = (_, none) :=
    cut_eq fun c found => beq_false_of_ne (rest c found).1
  have placed := cut_append (p := isSeparator) (fun c found => (isAuthority.inside c found).2.1)
    (b := '/') rfl path
  rw [read, readScheme_compose isScheme isAuthority inside]
  simp only [Option.bind_eq_bind, Option.bind_some, unfragmented, unqueried, placed]
  rw [if_neg isAuthority.present, String.ofList_toList]
  rfl

/-! ## Paths -/

theorem withoutEncodedDots_eq {segment : List Char} (percent : '%' ∉ segment) :
  withoutEncodedDots segment = segment
  := by
  induction segment with
  | nil => rfl
  | cons c segment ih =>
    rw [withoutEncodedDots]
    · rw [ih fun found => percent (List.mem_cons_of_mem c found)]
    · rintro _ _ rfl
      apply absurd List.mem_cons_self percent

/-- A segment without a percent sign that is not one or two dots means a place of its own. -/
theorem isPlace {segment : List Char} (percent : '%' ∉ segment) (single : segment ≠ ['.'])
    (double : segment ≠ ['.', '.']) :
  isSingleDot segment = false ∧ isDoubleDot segment = false
  := by
  rw [isSingleDot, isDoubleDot, withoutEncodedDots_eq percent]
  exact ⟨decide_eq_false single, decide_eq_false double⟩

theorem resolveSegments_eq {segments : List (List Char)}
    (places : ∀ segment ∈ segments, isSingleDot segment = false ∧ isDoubleDot segment = false)
    (read : List (List Char)) :
  resolveSegments read segments = read.reverse ++ segments
  := by
  induction segments generalizing read with
  | nil => rw [resolveSegments, List.append_nil]
  | cons segment rest ih =>
    obtain ⟨single, double⟩ := places segment List.mem_cons_self
    cases rest with
    | nil =>
      rw [resolveSegments, if_neg (by simp [double]), if_neg (by simp [single]),
        List.reverse_cons]
    | cons next rest =>
      rw [resolveSegments, if_neg (by simp [double]), if_neg (by simp [single]),
        ih fun other found => places other (List.mem_cons_of_mem segment found),
        List.reverse_cons, List.append_assoc, List.singleton_append]
      exact nofun

/-- A letter, a digit or a hyphen of ASCII. -/
def isPlain (c : Char) : Bool :=
  c.isAlphanum || c == '-'

/-- A letter, a digit or a hyphen stands in a path as it is, and is not what a path is cut at, a dot
or a percent sign. -/
theorem of_isPlain {c : Char} (plain : isPlain c = true) :
  isMargin c = false ∧ isPlainInPath c = true ∧ isSeparator c = false ∧
    c ≠ '?' ∧ c ≠ '#' ∧ c ≠ '.' ∧ c ≠ '%'
  := by
  have all : ∀ n < 0x7F, isPlain (Char.ofNat n) = true →
      isMargin (Char.ofNat n) = false ∧ isPlainInPath (Char.ofNat n) = true ∧
        isSeparator (Char.ofNat n) = false ∧ Char.ofNat n ≠ '?' ∧ Char.ofNat n ≠ '#' ∧
          Char.ofNat n ≠ '.' ∧ Char.ofNat n ≠ '%' := by
    decide +kernel
  have ascii : c.toNat < 0x7F := by
    delta isPlain Char.isAlphanum Char.isAlpha Char.isUpper Char.isLower Char.isDigit at plain
    simp only [Bool.or_eq_true, Bool.and_eq_true, decide_eq_true_eq, beq_iff_eq, ge_iff_le,
      UInt32.le_iff_toNat_le] at plain
    obtain ((⟨-, most⟩ | ⟨-, most⟩) | ⟨-, most⟩) | rfl := plain
    · exact Nat.lt_of_le_of_lt most (by decide)
    · exact Nat.lt_of_le_of_lt most (by decide)
    · exact Nat.lt_of_le_of_lt most (by decide)
    · decide
  rw [← Char.ofNat_toNat c] at plain ⊢
  exact all _ ascii plain

theorem toList_pathText (u : Url) :
  u.pathText.toList = u.path.flatMap fun segment => '/' :: segment.toList
  := by
  rw [pathText, String.toList_join, List.flatMap_map]
  simp only [String.toList_append]
  rfl

/-- A path of plain segments, with whatever number of slashes between them. -/
def IsPlainPath (path : List Char) : Prop :=
  ∀ c ∈ path, isPlain c = true ∨ c = '/'

theorem IsPlainPath.of_all {path : List Char}
    (h : (path.all fun c => isPlain c || c == '/') = true) :
  IsPlainPath path
  := by
  intro c found
  simpa using List.all_eq_true.mp h c found

theorem IsPlainPath.inside {path : List Char} (h : IsPlainPath path) :
  ∀ c ∈ path, IsInPath c
  := by
  intro c found
  obtain plain | rfl := h c found
  · obtain ⟨visible, -, -, query, fragment, -⟩ := of_isPlain plain
    exact ⟨visible, query, fragment⟩
  · exact ⟨rfl, by decide, by decide⟩

/-- The segments of a plain path hold nothing but plain characters. -/
theorem IsPlainPath.of_mem_pieces {path segment : List Char} (h : IsPlainPath path)
    (found : segment ∈ pieces isSeparator path) :
  ∀ c ∈ segment, isPlain c = true
  := by
  intro c among
  obtain ⟨among, other⟩ := CloudOperator.of_mem_pieces found c among
  obtain plain | rfl := h c among
  · exact plain
  · cases other

/-- A plain path is sent as it was put together. -/
theorem IsPlainPath.flatMap_pieces {path : List Char} (h : IsPlainPath path) :
  ((pieces isSeparator path).flatMap fun segment =>
    '/' :: Percent.encode isPlainInPath segment) = '/' :: path
  := by
  have kept : ∀ segment ∈ pieces isSeparator path,
      '/' :: Percent.encode isPlainInPath segment = '/' :: segment := by
    intro segment found
    rw [Percent.encode_eq fun c among => (of_isPlain (h.of_mem_pieces found c among)).2.1]
  rw [List.flatMap_def, List.map_congr_left kept, ← List.flatMap_def]
  apply CloudOperator.flatMap_pieces
  intro c found separator
  obtain plain | same := h c found
  · rw [(of_isPlain plain).2.2.1] at separator
    cases separator
  · exact same

/-- A segment that means a place of its own is the last one of the path if it stands behind a plain
path. -/
theorem IsPlainPath.pathText {parents last : List Char} (h : IsPlainPath parents)
    (whole : ∀ c ∈ last, isSeparator c = false) (percent : '%' ∉ last) (single : last ≠ ['.'])
    (double : last ≠ ['.', '.']) {u : Url} (path : u.path = readPath (parents ++ '/' :: last)) :
  u.pathText.toList = '/' :: parents ++ '/' :: Percent.encode isPlainInPath last
  := by
  have places : ∀ segment ∈ pieces isSeparator parents ++ [last],
      isSingleDot segment = false ∧ isDoubleDot segment = false := by
    intro segment found
    obtain found | found := List.mem_append.mp found
    · have plain := h.of_mem_pieces found
      apply isPlace
      · exact fun percent => (of_isPlain (plain _ percent)).2.2.2.2.2.2 rfl
      · rintro rfl
        exact (of_isPlain (plain _ List.mem_cons_self)).2.2.2.2.2.1 rfl
      · rintro rfl
        exact (of_isPlain (plain _ List.mem_cons_self)).2.2.2.2.2.1 rfl
    · rw [List.mem_singleton.mp found]
      apply isPlace percent single double
  rw [toList_pathText, path, readPath, pieces_append _ rfl, pieces_eq_singleton whole,
    resolveSegments_eq places, List.flatMap_map]
  simp only [String.toList_ofList, List.reverse_nil, List.nil_append, List.flatMap_append,
    h.flatMap_pieces, List.flatMap_singleton]

end Url

end CloudOperator
