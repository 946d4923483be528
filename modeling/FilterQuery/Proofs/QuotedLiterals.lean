import FilterQuery.Value.Literal
import Mathlib.Data.String.Basic

/-!
# Quoted literals

A text that is put in quotes, with the escapes that quotes ask for, is read as the text
that it was, whatever blanks stand around it. A text without a pair of quotes is left
alone. To take the quotes off is to cut one byte from either end: a quote takes a single
byte, so both cuts fall between two characters.
-/
namespace FilterQuery

namespace Text

/-- A text between two quotes of kind `q`, with escapes. -/
def inQuotes (q : Char) (s : String) : String := String.ofList (q :: escape q s.toList ++ [q])

/-- The text begins and ends with the quote `q`, and these are not one and the same. -/
structure Enclosed (q : Char) (t : String) : Prop where
  quote : isQuote q
  first : t.toList.head? = some q
  last : t.toList.getLast? = some q
  size : 2 ≤ t.utf8ByteSize

/-! ## Trimming -/

theorem dropBlank_append {w : List Char} (h : ∀ c ∈ w, isBlank c) (s : List Char) :
    dropBlank (w ++ s) = dropBlank s :=
  List.dropWhile_append_of_pos h

theorem dropBlank_eq_self {s : List Char} (h : ∀ c ∈ s.head?, isBlank c = false) :
    dropBlank s = s := by
  cases s with
  | nil => rfl
  | cons c s => simp [dropBlank, h c rfl]

/-- Blanks around a text go, and blanks inside it stay. -/
theorem trimChars_between {w s w' : List Char} (before : ∀ c ∈ w, isBlank c)
    (after : ∀ c ∈ w', isBlank c) (first : ∀ c ∈ s.head?, isBlank c = false)
    (last : ∀ c ∈ s.getLast?, isBlank c = false) : trimChars (w ++ s ++ w') = s := by
  have front : dropBlank (w ++ s ++ w') = dropBlank (s ++ w') := by
    rw [List.append_assoc, dropBlank_append before]
  have back : ∀ c ∈ w'.reverse, isBlank c := fun c hc => after c (List.mem_reverse.1 hc)
  cases s with
  | nil =>
    have blank : dropBlank w' = [] := by
      rw [← List.append_nil w', dropBlank_append after]
      rfl
    rw [trimChars, front, List.nil_append, blank]
    rfl
  | cons c s =>
    have kept : dropBlank (c :: s ++ w') = c :: s ++ w' :=
      dropBlank_eq_self fun d hd => first d hd
    have ends : ∀ d ∈ (c :: s).reverse.head?, isBlank d = false := by
      rwa [List.head?_reverse]
    rw [trimChars, front, kept, List.reverse_append, dropBlank_append back,
      dropBlank_eq_self ends, List.reverse_reverse]

theorem eq_of_isQuote {q : Char} (h : isQuote q) : q = '"' ∨ q = '\'' := by
  simpa [isQuote] using h

theorem trimChars_quoted {q : Char} (hq : isQuote q) (s : List Char) {w w' : List Char}
    (before : ∀ c ∈ w, isBlank c) (after : ∀ c ∈ w', isBlank c) :
    trimChars (w ++ (q :: s ++ [q]) ++ w') = q :: s ++ [q] := by
  have shown : isBlank q = false := by
    rcases eq_of_isQuote hq with rfl | rfl <;> decide
  refine trimChars_between before after ?_ ?_
  · rintro c ⟨⟩
    exact shown
  · rw [List.getLast?_concat]
    rintro c ⟨⟩
    exact shown

/-! ## Taking quotes off -/

theorem quoted?_eq_some {q : Char} {s inner : List Char} :
    quoted? s = some (q, inner) ↔ isQuote q ∧ s = q :: inner ++ [q] := by
  cases s with
  | nil => simp [quoted?]
  | cons c r =>
    rcases List.eq_nil_or_concat' r with rfl | ⟨r', l, rfl⟩
    · simp [quoted?]
    · have last : quoted? (c :: (r' ++ [l])) =
          if isQuote c ∧ l = c then some (c, r') else none := by
        simp only [quoted?, List.getLast?_concat, List.dropLast_concat]
      rw [last, List.cons_append, List.cons.injEq, List.append_singleton_inj]
      constructor
      · intro h
        split at h
        next both =>
          cases h
          exact ⟨both.1, rfl, rfl, both.2⟩
        next => cases h
      · rintro ⟨quote, rfl, rfl, rfl⟩
        rw [if_pos ⟨quote, rfl⟩]

theorem stripQuoteChars_quoted {q : Char} (hq : isQuote q) (s : List Char) :
    stripQuoteChars (q :: s ++ [q]) = unescape q s := by
  rw [stripQuoteChars, quoted?_eq_some.2 ⟨hq, rfl⟩]

theorem utf8Size_of_isQuote {q : Char} (h : isQuote q) : q.utf8Size = 1 := by
  rcases eq_of_isQuote h with rfl | rfl <;> decide

theorem enclosed_iff {q : Char} {t : String} :
    Enclosed q t ↔ isQuote q ∧ ∃ inner, t = String.ofList (q :: inner ++ [q]) := by
  constructor
  · rintro ⟨quote, first, last, size⟩
    refine ⟨quote, ?_⟩
    generalize hs : t.toList = s at first last
    obtain rfl : t = String.ofList s := by rw [← hs, String.ofList_toList]
    obtain ⟨r, rfl⟩ := List.head?_eq_some_iff.1 first
    rcases List.eq_nil_or_concat' r with rfl | ⟨inner, l, rfl⟩
    · -- A single quote is too short to be a pair of them.
      simp [utf8Size_of_isQuote quote] at size
    · rw [← List.cons_append, List.getLast?_concat] at last
      cases last
      exact ⟨inner, rfl⟩
  · rintro ⟨quote, inner, rfl⟩
    have letters : (String.ofList (q :: inner ++ [q])).toList = q :: inner ++ [q] :=
      String.toList_ofList
    refine ⟨quote, ?_, ?_, ?_⟩
    · rw [letters]
      rfl
    · rw [letters, List.getLast?_concat]
    · rw [← String.utf8Len_toList, letters]
      simp [utf8Size_of_isQuote quote]

theorem stripQuotes_of_not_enclosed {t : String} (h : ∀ q, ¬ Enclosed q t) :
    stripQuotes t = t := by
  have unquoted : quoted? t.toList = none := by
    cases hq : quoted? t.toList with
    | none => rfl
    | some found =>
      obtain ⟨q, inner⟩ := found
      obtain ⟨quote, eq⟩ := quoted?_eq_some.1 hq
      exact absurd (enclosed_iff.2 ⟨quote, inner, by rw [← eq, String.ofList_toList]⟩) (h q)
  rw [stripQuotes, stripQuoteChars, unquoted, String.ofList_toList]

/-! ## By bytes -/

/-- The text can be cut from one byte position up to another. -/
structure Cuts (t : String) (start stop : Nat) : Prop where
  order : start ≤ stop
  /-- Both positions are in the text and at the boundary of a character. -/
  startValid : (⟨start⟩ : String.Pos.Raw).IsValid t
  stopValid : (⟨stop⟩ : String.Pos.Raw).IsValid t

theorem cuts_of_append (l m r : List Char) :
    Cuts (String.ofList (l ++ m ++ r)) (String.utf8Len l)
      (String.utf8Len l + String.utf8Len m) where
  order := Nat.le_add_right ..
  startValid := by
    rw [String.Pos.Raw.isValid_iff_exists_append]
    exact ⟨String.ofList l, String.ofList (m ++ r), by simp, by simp⟩
  stopValid := by
    rw [String.Pos.Raw.isValid_iff_exists_append]
    refine ⟨String.ofList (l ++ m), String.ofList r, String.ofList_append, ?_⟩
    rw [String.rawEndPos_ofList, String.utf8Len_append]

/-- What stands between the quotes, cut out by its bytes. -/
def cutOut (t : String) : String := String.Pos.Raw.extract t ⟨1⟩ ⟨t.utf8ByteSize - 1⟩

theorem cuts_of_enclosed {q : Char} {t : String} (h : Enclosed q t) :
    Cuts t 1 (t.utf8ByteSize - 1) ∧
      stripQuotes t = String.ofList (unescape q (cutOut t).toList) := by
  obtain ⟨quote, inner, rfl⟩ := enclosed_iff.1 h
  have width : String.utf8Len [q] = 1 := by simp [utf8Size_of_isQuote quote]
  have size : (String.ofList (q :: inner ++ [q])).utf8ByteSize - 1 = 1 + String.utf8Len inner := by
    simp [String.utf8ByteSize_ofList, utf8Size_of_isQuote quote]
    omega
  have cuts := cuts_of_append [q] inner [q]
  have cut := String.extract_of_valid [q] inner [q]
  rw [width] at cuts cut
  rw [cutOut, size]
  refine ⟨cuts, ?_⟩
  rw [stripQuotes, String.toList_ofList, stripQuoteChars_quoted quote]
  rw [show q :: inner ++ [q] = [q] ++ inner ++ [q] from rfl, cut, String.toList_ofList]

end Text

namespace Literal

/-- What is written in quotes is read as it was, with or without blanks around the quotes.
Only a text between two quotes of one kind changes, and it is cut at character boundaries. -/
theorem stripQuotes_spec :
    (∀ (q : Char) (s w w' : String), Text.isQuote q →
      (∀ c ∈ w.toList, Text.isBlank c) → (∀ c ∈ w'.toList, Text.isBlank c) →
      Text.stripQuotes (Text.inQuotes q s) = s ∧
        convert .string (w ++ Text.inQuotes q s ++ w') = .ok (.string s)) ∧
      (∀ t : String, (∀ q, ¬ Text.Enclosed q t) → Text.stripQuotes t = t) ∧
      ∀ (q : Char) (t : String), Text.Enclosed q t →
        Text.Cuts t 1 (t.utf8ByteSize - 1) ∧
          Text.stripQuotes t = String.ofList (Text.unescape q (Text.cutOut t).toList) := by
  refine ⟨fun q s w w' quote before after => ?_, fun t => Text.stripQuotes_of_not_enclosed,
    fun q t => Text.cuts_of_enclosed⟩
  have decoded : Text.stripQuoteChars (q :: Text.escape q s.toList ++ [q]) = s.toList := by
    rw [Text.stripQuoteChars_quoted quote, Text.unescape_escape]
  have trimmed := Text.trimChars_quoted quote (Text.escape q s.toList) before after
  constructor
  · rw [Text.stripQuotes, Text.inQuotes, String.toList_ofList, decoded, String.ofList_toList]
  · rw [convert, read, content, String.toList_append, String.toList_append, Text.inQuotes,
      String.toList_ofList, trimmed, decoded]
    simp only [String.ofList_toList]
    rfl

/-- An accent beside the opening quote, a backslash beside the closing one, and a lone quote. -/
theorem stripQuotes_spec_accented :
    let s := "é\"'\\"
    (Text.stripQuotes (Text.inQuotes '\'' s) = s ∧
      convert .string ("\u00a0\n" ++ Text.inQuotes '\'' s ++ "\u3000") = .ok (.string s)) ∧
      Text.stripQuotes "'" = "'" ∧
      Text.Enclosed '\'' (Text.inQuotes '\'' s) ∧
      Text.Cuts (Text.inQuotes '\'' s) 1 ((Text.inQuotes '\'' s).utf8ByteSize - 1) := by
  have quote : Text.isQuote '\'' := by decide
  have single : ∀ q, ¬ Text.Enclosed q "'" := fun q h => absurd h.size (by decide)
  have enclosed : Text.Enclosed '\'' (Text.inQuotes '\'' "é\"'\\") :=
    Text.enclosed_iff.2 ⟨quote, _, rfl⟩
  exact ⟨stripQuotes_spec.1 '\'' _ _ _ quote (List.all_eq_true.1 rfl) (List.all_eq_true.1 rfl),
    stripQuotes_spec.2.1 _ single, enclosed, (stripQuotes_spec.2.2 _ _ enclosed).1⟩

end Literal

end FilterQuery
