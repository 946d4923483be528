import FilterQuery.Proofs.QuotedLiterals
import FilterQuery.Proofs.ValueText

/-!
# Reading values back

The text that a query shows for a value is meant for the reader of literals. Numbers and
truth values come back from it as they were. A string comes back with each hidden
character, a line break among them, replaced by the characters that show it, since the
reader undoes no escape but those of the quote and the backslash.
-/
namespace FilterQuery

namespace Text

theorem trimChars_eq_self {s : List Char} (h : ∀ c ∈ s, isBlank c = false) : trimChars s = s := by
  have trimmed := trimChars_between (List.forall_mem_nil _) (List.forall_mem_nil _)
    (fun c hc => h c (List.mem_of_mem_head? hc)) (fun c hc => h c (List.mem_of_mem_getLast? hc))
  rwa [List.nil_append, List.append_nil] at trimmed

theorem stripQuoteChars_eq_self {s : List Char} (h : ∀ c ∈ s, isQuote c = false) :
    stripQuoteChars s = s := by
  have unquoted : quoted? s = none := by
    cases hq : quoted? s with
    | none => rfl
    | some found =>
      obtain ⟨quote, rfl⟩ := quoted?_eq_some.1 hq
      simp [h found.1 (by simp)] at quote
  rw [stripQuoteChars, unquoted]

/-- A text in double quotes has no blanks around it to trim. -/
theorem strip_trim_quotes (s : List Char) :
    stripQuoteChars (trimChars ('"' :: s ++ ['"'])) = unescape '"' s := by
  have quote : isQuote '"' := by decide
  have trimmed := trimChars_quoted quote s (List.forall_mem_nil _) (List.forall_mem_nil _)
  rw [List.nil_append, List.append_nil] at trimmed
  rw [trimmed, stripQuoteChars_quoted quote]

/-! ## Undoing what shows a character -/

theorem unescape_append {q : Char} {ds : List Char} (h : ∀ c ∈ ds, c ≠ '\\') (r : List Char) :
    unescape q (ds ++ r) = ds ++ unescape q r := by
  induction ds with
  | nil => rfl
  | cons c ds ih =>
    obtain ⟨hc, hds⟩ := List.forall_mem_cons.1 h
    rw [List.cons_append, unescape_cons_of_ne q _ hc, ih hds, List.cons_append]

/-- What is read in double quotes for a character that is shown there. -/
def reread (c : Char) : List Char := if c = '"' ∨ c = '\\' then [c] else showChar c

/-- The code point of a hidden character stands between braces, without a backslash. -/
theorem unescape_codePoint (n : Nat) (r : List Char) :
    unescape '"' ('\\' :: 'u' :: '\x7b' :: (Nat.toDigits 16 n ++ ['\x7d'] ++ r)) =
      '\\' :: 'u' :: '\x7b' :: (Nat.toDigits 16 n ++ ['\x7d']) ++ unescape '"' r := by
  have plain : ∀ d ∈ '\x7b' :: (Nat.toDigits 16 n ++ ['\x7d']), d ≠ '\\' := by
    intro d hd
    rcases List.mem_cons.1 hd with rfl | hd
    · decide
    rcases List.mem_append.1 hd with hd | hd
    · obtain ⟨i, rfl⟩ := exists_digitChar_of_mem_toDigits (by decide) hd
      exact Nat.digitChar_ne _ (by decide)
    · obtain rfl := List.mem_singleton.1 hd
      decide
  have letter (s : List Char) :
      unescape '"' ('\\' :: 'u' :: s) = '\\' :: 'u' :: unescape '"' s := by
    simp [unescape]
  rw [letter, ← List.cons_append, unescape_append plain]
  rfl

theorem unescape_showChar (c : Char) (r : List Char) :
    unescape '"' (showChar c ++ r) = reread c ++ unescape '"' r := by
  unfold reread showChar
  split
  case h_1 | h_2 | h_3 | h_4 | h_5 | h_6 => simp [unescape]
  case h_7 quote backslash _ _ _ _ =>
    rw [if_neg (not_or.2 ⟨quote, backslash⟩)]
    split
    · exact unescape_codePoint c.toNat r
    · exact unescape_cons_of_ne _ _ backslash

theorem unescape_showChars (s : List Char) :
    unescape '"' (showChars s) = s.flatMap reread := by
  induction s with
  | nil => rfl
  | cons c s ih => rw [showChars, unescape_showChar, ih, List.flatMap_cons]

/-- Quotes and backslashes come back, and of the other characters those that are not hidden. -/
theorem reread_cases (c : Char) :
    isHidden c = false ∧ reread c = [c] ∨ isHidden c = true ∧ 2 ≤ (reread c).length := by
  unfold reread
  split
  case isTrue h => rcases h with rfl | rfl <;> exact .inl (by decide)
  case isFalse h =>
    have backslash : c ≠ '\\' := fun e => h (.inr e)
    have quote : c ≠ '"' := fun e => h (.inl e)
    unfold showChar
    split
    case h_1 | h_2 => contradiction
    case h_3 | h_4 | h_5 | h_6 => exact .inr (by decide)
    case h_7 =>
      split
      case isTrue hidden => exact .inr ⟨hidden, by simp⟩
      case isFalse shown => exact .inl ⟨by simpa using shown, rfl⟩

theorem length_le_flatMap_reread (s : List Char) : s.length ≤ (s.flatMap reread).length := by
  induction s with
  | nil => exact Nat.le_refl 0
  | cons c s ih =>
    have one : 1 ≤ (reread c).length := by
      rcases reread_cases c with ⟨-, same⟩ | ⟨-, longer⟩
      · simp [same]
      · omega
    rw [List.flatMap_cons, List.length_append, List.length_cons]
    omega

/-- A single hidden character makes the text that is read back longer. -/
theorem flatMap_reread_eq_self_iff (s : List Char) :
    s.flatMap reread = s ↔ ∀ c ∈ s, isHidden c = false := by
  induction s with
  | nil => simp
  | cons c s ih =>
    rw [List.flatMap_cons, List.forall_mem_cons]
    rcases reread_cases c with ⟨shown, same⟩ | ⟨hidden, longer⟩
    · rw [same, List.singleton_append, List.cons.injEq, ih]
      simp [shown]
    · have total := length_le_flatMap_reread s
      refine iff_of_false (fun h => ?_) (by simp [hidden])
      have lengths := congrArg List.length h
      rw [List.length_append, List.length_cons] at lengths
      omega

end Text

/-! ## Values of every type -/

namespace Literal

/-- A character that the reader of literals leaves in place wherever it stands. -/
def isPlain (c : Char) : Bool := !Text.isBlank c && !Text.isQuote c

theorem isPlain_iff {c : Char} :
    isPlain c ↔ Text.isBlank c = false ∧ Text.isQuote c = false := by
  simp [isPlain]

theorem isPlain_of_isDigit {c : Char} (h : c.isDigit) : isPlain c := by
  have range : 48 ≤ c.toNat ∧ c.toNat ≤ 57 := by
    simpa [Char.isDigit, UInt32.le_iff_toNat_le] using h
  refine isPlain_iff.2 ⟨?_, ?_⟩
  · simp only [Text.isBlank, Bool.or_eq_false_iff, Bool.and_eq_false_iff, decide_eq_false_iff_not,
      beq_eq_false_iff_ne]
    omega
  · simp only [Text.isQuote, Bool.or_eq_false_iff, decide_eq_false_iff_not]
    constructor <;> rintro rfl <;> exact absurd range (by decide)

/-- A text of plain characters is its own content. -/
theorem trimChars_content {raw : String} (h : ∀ c ∈ raw.toList, isPlain c) :
    Text.trimChars (content raw) = raw.toList := by
  have trimmed := Text.trimChars_eq_self fun c hc => (isPlain_iff.1 (h c hc)).1
  have stripped := Text.stripQuoteChars_eq_self fun c hc => (isPlain_iff.1 (h c hc)).2
  rw [content, trimmed, stripped, trimmed]

theorem content_quoted (s : String) : content (Text.quoted s) = s.toList.flatMap Text.reread := by
  rw [content, Text.quoted, String.toList_ofList, Text.strip_trim_quotes, Text.unescape_showChars]

end Literal

namespace Value

open Literal

theorem isPlain_of_mem_toString (n : Int) : ∀ c ∈ (toString n).toList, isPlain c := by
  intro c hc
  rcases Text.mem_repr hc with digit | rfl
  · exact isPlain_of_isDigit digit
  · decide

theorem isPlain_of_mem_showFloat (x : Binary64) : ∀ c ∈ (showFloat x).toList, isPlain c := by
  by_cases hx : x = .nan
  · subst hx
    exact List.all_eq_true.1 (by decide)
  · intro c hc
    have marks : ['.', 'e', '-', 'i', 'n', 'f'].all isPlain := by decide
    exact (mem_showFloat hx hc).elim isPlain_of_isDigit (List.all_eq_true.1 marks c)

/-- What the reader of literals makes of the text of a value. -/
def reread : Value → Value
  | string s => string (String.ofList (s.toList.flatMap Text.reread))
  | v => v

theorem convert_text (v : Value) : convert v.valueType v.text = .ok v.reread := by
  unfold convert Literal.read
  cases v with
  | integer n =>
    simp only [valueType, text, trimChars_content (isPlain_of_mem_toString _),
      readInteger_toString]
    rfl
  | float x =>
    simp only [valueType, text, trimChars_content (isPlain_of_mem_showFloat _)]
    by_cases hx : x = .nan
    · subst hx
      rfl
    · rw [readFloat_showFloat hx]
      rfl
  | bool b => cases b <;> rfl
  | string s =>
    simp only [valueType, text, content_quoted]
    rfl

/-- A value of any type reads back as itself from its text, but for a string with a hidden
character in it: that one reads back as another string. -/
theorem readsBack_iff (v : Value) :
    convert v.valueType v.text = .ok v ↔
      ∀ s, v = string s → ∀ c ∈ s.toList, Text.isHidden c = false := by
  rw [convert_text, Except.ok.injEq]
  cases v with
  | integer | float | bool => simp [reread]
  | string s =>
    have same : String.ofList (s.toList.flatMap Text.reread) = s ↔
        s.toList.flatMap Text.reread = s.toList := by
      rw [← String.toList_inj, String.toList_ofList]
    simp only [reread, string.injEq, same, Text.flatMap_reread_eq_self_iff]
    simp

/-- A line break is shown by a backslash and a letter, and these two are read. -/
theorem convert_text_lineBreak :
    convert .string (string "\n").text = .ok (string "\\n") ∧
      convert .string (string "\n").text ≠ .ok (string "\n") := by
  have read : convert .string (string "\n").text = .ok (string "\\n") := by
    rw [show ValueType.string = (string "\n").valueType from rfl, convert_text]
    rfl
  rw [read]
  simp

end Value

end FilterQuery
