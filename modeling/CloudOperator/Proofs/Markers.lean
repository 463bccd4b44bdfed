import CloudOperator.Reconcile.Failure
import Mathlib.Data.List.Infix
import Mathlib.Data.List.ReduceOption

/-!
# Markers in problems

The marker of a resource that is not ready is looked for in the letters and digits of a
text, whatever else stands between them.  A text that contains neither of the words
`ready` and `status` is therefore taken for the marker if and only if two of its parts
that follow each other read `not` and `ready`, or `invalid` and `status`, where the
second word is broken up: the end of "cannot" and the beginning of "read your" do so.

* `Problem.saysNotReady_iff_breaksUp` - texts without the two words
* `Problem.failTerminal_iff_of_lacking` - refusals whose texts are without the two words
-/

namespace CloudOperator

namespace Problem

/-! ### Letters -/

/-- The letters and digits of ASCII in a list of characters, in lower case. -/
def letters (text : List Char) : List Char :=
  (text.filter Char.isAlphanum).map Char.toLower

@[simp]
theorem letters_nil :
  letters [] = []
  := rfl

@[simp]
theorem letters_cons_of_isAlphanum {c : Char} (h : c.isAlphanum = true) (text : List Char) :
  letters (c :: text) = c.toLower :: letters text
  := by
  simp [letters, h]

@[simp]
theorem letters_cons_of_separator {c : Char} (h : c.isAlphanum = false) (text : List Char) :
  letters (c :: text) = letters text
  := by
  simp [letters, h]

@[simp]
theorem letters_append (text rest : List Char) :
  letters (text ++ rest) = letters text ++ letters rest
  := by
  simp [letters]

theorem condensed_eq_letters (text : String) :
  condensed text = letters text.toList
  := rfl

/-- A text whose letters are two words falls into two parts with one word each. -/
theorem exists_of_letters_eq_append {text first second : List Char}
    (h : letters text = first ++ second) :
  ∃ opening closing, text = opening ++ closing
    ∧ letters opening = first ∧ letters closing = second
  := by
  obtain ⟨kept, others, split, rfl, rfl⟩ := List.map_eq_append_iff.mp h
  obtain ⟨opening, closing, rfl, rfl, rfl⟩ := List.filter_eq_append_iff.mp split
  exact ⟨opening, closing, rfl, rfl, rfl⟩

/-- The texts whose letters contain two words one after the other. -/
theorem append_isInfix_letters_iff {first second text : List Char} :
  first ++ second <:+: letters text
    ↔ ∃ before opening closing after, text = before ++ opening ++ closing ++ after
      ∧ letters opening = first ∧ letters closing = second
  := by
  constructor
  · rintro ⟨start, ending, h⟩
    obtain ⟨front, after, rfl, h, -⟩ := exists_of_letters_eq_append h.symm
    obtain ⟨before, middle, rfl, -, h⟩ := exists_of_letters_eq_append h
    obtain ⟨opening, closing, rfl, first_eq, second_eq⟩ := exists_of_letters_eq_append h
    exact ⟨before, opening, closing, after, by simp, first_eq, second_eq⟩
  · rintro ⟨before, opening, closing, after, rfl, rfl, rfl⟩
    exact ⟨letters before, letters after, by simp⟩

/-! ### Words that are broken up -/

/-- Whether something else stands among the letters of a part of a text. -/
def Interrupted (part : List Char) : Prop :=
  ∃ before separator after, part = before ++ separator :: after
    ∧ separator.isAlphanum = false ∧ letters before ≠ [] ∧ letters after ≠ []

/-- A part has its letters in front if nothing but separators follows the first separator. -/
theorem letters_isPrefix {part : List Char}
    (h : ∀ before separator after, part = before ++ separator :: after →
      separator.isAlphanum = false → letters after = []) :
  letters part <+: part.map Char.toLower
  := by
  induction part with
  | nil => simp
  | cons c rest ih =>
    cases alnum : c.isAlphanum with
    | false =>
      rw [letters_cons_of_separator alnum, h [] c rest rfl alnum]
      exact List.nil_prefix
    | true =>
      rw [letters_cons_of_isAlphanum alnum, List.map_cons, List.prefix_cons_inj]
      apply ih
      intro before separator after split
      exact h (c :: before) separator after (by rw [split, List.cons_append])

/-- A part that is not interrupted contains its letters as they are. -/
theorem letters_isInfix {part : List Char} (whole : ¬ Interrupted part) :
  letters part <:+: part.map Char.toLower
  := by
  induction part with
  | nil => simp
  | cons c rest ih =>
    cases alnum : c.isAlphanum with
    | false =>
      rw [letters_cons_of_separator alnum, List.map_cons]
      apply List.infix_cons
      apply ih
      rintro ⟨before, separator, after, rfl, other, front, back⟩
      exact whole ⟨c :: before, separator, after, rfl, other,
        by rwa [letters_cons_of_separator alnum], back⟩
    | true =>
      apply List.IsPrefix.isInfix
      rw [letters_cons_of_isAlphanum alnum, List.map_cons, List.prefix_cons_inj]
      apply letters_isPrefix
      rintro before separator after rfl other
      by_contra back
      exact whole ⟨c :: before, separator, after, rfl, other,
        by simp [letters_cons_of_isAlphanum alnum], back⟩

/-- Whether a text contains a word, be it in capitals or not. -/
def Mentions (word text : String) : Prop :=
  word.toList <:+: text.toList.map Char.toLower

instance (word text : String) : Decidable (Mentions word text) :=
  inferInstanceAs (Decidable (_ <:+: _))

/-- Whether the letters of two parts of a text that follow each other are two words, the
second one with something else among its letters. -/
def BreaksUp (first second text : String) : Prop :=
  ∃ before opening closing after, text.toList = before ++ opening ++ closing ++ after
    ∧ letters opening = first.toList ∧ letters closing = second.toList
    ∧ Interrupted closing

/-- A text without the second of two words spells them if and only if it breaks the
second one up. -/
theorem isInfix_condensed_iff {first second text : String} (lacks : ¬ Mentions second text) :
  first.toList ++ second.toList <:+: condensed text ↔ BreaksUp first second text
  := by
  rw [condensed_eq_letters, append_isInfix_letters_iff]
  constructor
  · rintro ⟨before, opening, closing, after, split, first_eq, second_eq⟩
    refine ⟨before, opening, closing, after, split, first_eq, second_eq, ?_⟩
    by_contra whole
    apply lacks
    have inside : closing.map Char.toLower <:+: text.toList.map Char.toLower :=
      List.IsInfix.map _ ⟨before ++ opening, after, split.symm⟩
    rw [Mentions, ← second_eq]
    exact (letters_isInfix whole).trans inside
  · rintro ⟨before, opening, closing, after, split, first_eq, second_eq, -⟩
    exact ⟨before, opening, closing, after, split, first_eq, second_eq⟩

/-! ### The marker -/

/-- The search for a part finds the parts without gaps. -/
theorem occursIn_iff (part text : List Char) :
  occursIn part text = true ↔ part <:+: text
  := by
  induction text with
  | nil => simp [occursIn]
  | cons c rest ih => simp [occursIn, ih, List.infix_cons_iff]

theorem saysNotReady_iff (text : String) :
  saysNotReady text = true
    ↔ "not".toList ++ "ready".toList <:+: condensed text
      ∨ "invalid".toList ++ "status".toList <:+: condensed text
  := by
  have invalid : "invalidstatus".toList = "invalid".toList ++ "status".toList := rfl
  have unready : "notready".toList = "not".toList ++ "ready".toList := rfl
  rw [saysNotReady, markers, List.any_cons, List.any_cons, List.any_nil, Bool.or_false,
    Bool.or_eq_true, occursIn_iff, occursIn_iff, invalid, unready]
  exact or_comm

/-- **Texts without the words `ready` and `status`**: such a text is taken for the marker
if and only if it breaks up one of the two words. -/
theorem saysNotReady_iff_breaksUp {text : String}
    (lacks : ¬ Mentions "ready" text ∧ ¬ Mentions "status" text) :
  saysNotReady text = true
    ↔ BreaksUp "not" "ready" text ∨ BreaksUp "invalid" "status" text
  := by
  rw [saysNotReady_iff, isInfix_condensed_iff lacks.1, isInfix_condensed_iff lacks.2]

/-- The texts that a body has for a problem. -/
def Report.texts (report : Report) : List String :=
  [report.type, report.title, report.detail].reduceOption

theorem notReady_ofBody_iff (status : Nat) (body : String) :
  (ofBody status body).notReady = true
    ↔ ∃ text ∈ (Report.ofBody body).texts, saysNotReady text = true
  := by
  simp only [ofBody, List.any_eq_true, Option.any_eq_true_iff_get, Report.texts,
    List.reduceOption_mem_iff]
  constructor
  · rintro ⟨text?, present, some_text, spelled⟩
    exact ⟨text?.get some_text, by rwa [Option.some_get], spelled⟩
  · rintro ⟨text, present, spelled⟩
    exact ⟨some text, present, rfl, spelled⟩

/-- A refusal is final if and only if it is without the marker. -/
theorem failTerminal_iff {p : Problem} (refused : p.isClientError = true) :
  Reaction.ofFailure (.problem p) = .failTerminal ↔ p.notReady = false
  := by
  cases marked : p.notReady with
  | false => simp [Reaction.ofFailure, marked, refused]
  | true => simp [Reaction.ofFailure, marked]

/-- **Refusals without the words `ready` and `status`**: an answer with a status from 400
to 499 in whose texts the two words do not occur is without the marker, and final, if and
only if no text breaks up one of the two words. -/
theorem failTerminal_iff_of_lacking {status : Nat} (refused : 400 ≤ status ∧ status < 500)
    (body : String)
    (lacks : ∀ text ∈ (Report.ofBody body).texts,
      ¬ Mentions "ready" text ∧ ¬ Mentions "status" text) :
  ((ofBody status body).notReady = false
    ∧ Reaction.ofFailure (.problem (ofBody status body)) = .failTerminal)
    ↔ ∀ text ∈ (Report.ofBody body).texts,
      ¬ BreaksUp "not" "ready" text ∧ ¬ BreaksUp "invalid" "status" text
  := by
  have client : (ofBody status body).isClientError = true := by
    simp [isClientError, ofBody, refused]
  rw [failTerminal_iff client, and_self, ← Bool.not_eq_true, notReady_ofBody_iff]
  simp only [not_exists, not_and]
  apply forall₂_congr
  intro text present
  rw [saysNotReady_iff_breaksUp (lacks text present), not_or]

/-- What an answer says that refuses a request for good. -/
def exceeded : String :=
  "\x7b\"title\":\"Forbidden\",\"detail\":\"Quota exceeded\"\x7d"

theorem failTerminal_iff_of_lacking_exceeded :
  ((400 ≤ 403 ∧ 403 < 500)
    ∧ ∀ text ∈ (Report.ofBody exceeded).texts,
      ¬ Mentions "ready" text ∧ ¬ Mentions "status" text)
    ∧ ∀ text ∈ (Report.ofBody exceeded).texts,
      ¬ BreaksUp "not" "ready" text ∧ ¬ BreaksUp "invalid" "status" text
  := by
  have lacks : ∀ text ∈ (Report.ofBody exceeded).texts,
      ¬ Mentions "ready" text ∧ ¬ Mentions "status" text := by
    decide +kernel
  have final : (ofBody 403 exceeded).notReady = false
      ∧ Reaction.ofFailure (.problem (ofBody 403 exceeded)) = .failTerminal := by
    decide +kernel
  exact ⟨⟨by decide, lacks⟩,
    (failTerminal_iff_of_lacking (by decide) exceeded lacks).mp final⟩

/-- What an answer says that refuses to show a quota. -/
def unreadable : String :=
  "\x7b\"title\":\"Forbidden\",\"detail\":\"You cannot read your quota\"\x7d"

/-- A refusal to show a quota counts as a resource that is not ready. -/
theorem unreadable_taken_for_not_ready :
  (∀ text ∈ (Report.ofBody unreadable).texts,
      ¬ Mentions "ready" text ∧ ¬ Mentions "status" text)
    ∧ (ofBody 403 unreadable).notReady = true
    ∧ Reaction.ofFailure (.problem (ofBody 403 unreadable)) = .retrySamePhase
  := by
  decide +kernel

end Problem

end CloudOperator
