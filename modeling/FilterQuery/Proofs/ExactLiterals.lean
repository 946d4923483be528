import FilterQuery.Proofs.ReadBack
import Mathlib

/-!
# Whole numbers and truth values

Which literals are whole numbers and which are truth values, and which ones they are. A
numeral is read as the number that it writes if 64 bits hold that number, and is refused
if they do not, however many digits it has.
-/
namespace FilterQuery.Literal

/-- What counts of a literal that is no string: blanks around it go, then one layer of
quotes, then the blanks inside these. -/
def core (raw : String) : String := Text.trim (Text.stripQuotes (Text.trim raw))

theorem toList_core (raw : String) : (core raw).toList = Text.trimChars (content raw) := by
  simp only [core, Text.trim, Text.stripQuotes, content, String.toList_ofList]

/-! ## Numerals -/

/-- The text writes the number: an optional sign, and digits, at least one of them. -/
inductive Numeral : List Char → Int → Prop
  | unsigned {ds : List Char} (digits : AllDigits ds) (some : ds ≠ []) :
      Numeral ds (Nat.ofDigitChars 10 ds 0)
  | plus {ds : List Char} (digits : AllDigits ds) (some : ds ≠ []) :
      Numeral ('+' :: ds) (Nat.ofDigitChars 10 ds 0)
  | minus {ds : List Char} (digits : AllDigits ds) (some : ds ≠ []) :
      Numeral ('-' :: ds) (-(Nat.ofDigitChars 10 ds 0 : Int))

section
variable {limit acc n : Nat} {overflow : LiteralFault} {s ds : List Char}

/-- Digits are summed up as long as the sum keeps to the limit; once it does not, no further
digit brings it back. -/
theorem readDigits_eq (digits : AllDigits ds) (h : acc ≤ limit) :
    readDigits limit overflow ds acc =
      if Nat.ofDigitChars 10 ds acc ≤ limit then .ok (Nat.ofDigitChars 10 ds acc)
      else .error overflow := by
  induction ds generalizing acc with
  | nil => exact (if_pos h).symm
  | cons c ds ih =>
    obtain ⟨digit, digits⟩ := allDigits_cons.1 digits
    simp only [ofDigitChars_cons, readDigits, digit?_eq, digit, if_true]
    by_cases large : limit < acc * 10 + (c.toNat - 48)
    · have beyond := Nat.lt_of_lt_of_le large (le_ofDigitChars ds _)
      rw [if_pos large, if_neg (Nat.not_le.2 beyond)]
    · rw [if_neg large]
      exact ih digits (Nat.not_lt.1 large)

theorem allDigits_of_readDigits (h : readDigits limit overflow ds acc = .ok n) :
    AllDigits ds := by
  induction ds generalizing acc with
  | nil => exact allDigits_nil
  | cons c ds ih =>
    unfold readDigits at h
    split at h
    next => cases h
    next d digit =>
      split at h
      next => cases h
      next =>
        have first : c.isDigit := by rw [← isSome_digit?, digit, Option.isSome_some]
        exact allDigits_cons.2 ⟨first, ih h⟩

theorem readInteger_positive (hne : ds ≠ []) :
    readInteger ('+' :: ds) =
      (readDigits (Nat.pow 2 63 - 1) .tooLarge ds 0).map fun n : Nat => Int64.ofNat n := by
  rw [readInteger]
  exact hne

/-- Whatever is read as an integer is a numeral. -/
theorem exists_numeral_of_readInteger {n : Int64} (h : readInteger s = .ok n) :
    ∃ k, Numeral s k := by
  unfold readInteger at h
  split at h
  next => cases h
  next => cases h
  next => cases h
  next r some =>
    cases read : readDigits (Nat.pow 2 63) .tooSmall r 0 with
    | error fault =>
      rw [read] at h
      cases h
    | ok n => exact ⟨_, .minus (allDigits_of_readDigits read) some⟩
  next r some =>
    obtain ⟨_, read, -⟩ := exists_of_map_eq_ok h
    exact ⟨_, .plus (allDigits_of_readDigits read) some⟩
  next s some _ _ _ _ =>
    obtain ⟨_, read, -⟩ := exists_of_map_eq_ok h
    exact ⟨_, .unsigned (allDigits_of_readDigits read) some⟩

/-- The integer of 64 bits with that value, or on which side of them all it lies. -/
def clip (k : Int) : Except LiteralFault Int64 :=
  if k < -2 ^ 63 then .error .tooSmall
  else if 2 ^ 63 - 1 < k then .error .tooLarge
  else .ok (Int64.ofInt k)

theorem readDigits_natural (digits : AllDigits ds) :
    ((readDigits (Nat.pow 2 63 - 1) .tooLarge ds 0).map fun n : Nat => Int64.ofNat n) =
      clip (Nat.ofDigitChars 10 ds 0) := by
  rw [readDigits_eq digits (Nat.zero_le _), Nat.pow_eq]
  generalize Nat.ofDigitChars 10 ds 0 = n
  have natural : ¬ (n : Int) < -2 ^ 63 := by omega
  rw [clip, if_neg natural]
  split
  next fits =>
    rw [if_neg (by omega), Int64.ofInt_eq_ofNat]
    rfl
  next =>
    rw [if_pos (by omega)]
    rfl

/-- A numeral is read as the number that it writes, unless that number is too small or too
large for 64 bits. -/
theorem readInteger_numeral {k : Int} (h : Numeral s k) : readInteger s = clip k := by
  cases h with
  | unsigned digits some => rw [readInteger_unsigned digits some, readDigits_natural digits]
  | plus digits some => rw [readInteger_positive some, readDigits_natural digits]
  | @minus ds digits some =>
    rw [readInteger_negative some, readDigits_eq digits (Nat.zero_le _), Nat.pow_eq]
    generalize Nat.ofDigitChars 10 ds 0 = n
    have negative : ¬ 2 ^ 63 - 1 < -(n : Int) := by omega
    rw [clip, if_neg negative]
    split
    next fits =>
      rw [if_neg (by omega)]
      rfl
    next =>
      rw [if_pos (by omega)]
      rfl

/-- Integers are the numerals of 64 bits, each the number that it writes. -/
theorem readInteger_eq_ok {n : Int64} : readInteger s = .ok n ↔ Numeral s n.toInt := by
  constructor
  · intro h
    obtain ⟨k, numeral⟩ := exists_numeral_of_readInteger h
    rw [readInteger_numeral numeral, clip] at h
    split at h
    next => cases h
    next low =>
      split at h
      next => cases h
      next high =>
        cases h
        rwa [Int64.toInt_ofInt_of_le (by omega) (by omega)]
  · intro h
    have low := n.le_toInt
    have high := n.toInt_lt
    rw [readInteger_numeral h, clip, if_neg (by omega), if_neg (by omega), Int64.ofInt_toInt]

end

/-! ## Words -/

/-- The text is that word, with each letter small or capital. -/
def Spells (s : List Char) (word : String) : Prop :=
  List.Forall₂ (fun c d => c = d ∨ c = d.toUpper) s word.toList

theorem toLower_eq_iff {c d : Char} (small : d.isLower) :
    c.toLower = d ↔ c = d ∨ c = d.toUpper := by
  constructor
  · rintro rfl
    by_cases capital : c.isUpper
    · right
      rw [Char.toUpper_toLower_eq_toUpper,
        Char.toUpper_eq_of_not_isLower (Char.not_isLower_of_isUpper capital)]
    · exact .inl (Char.toLower_eq_of_not_isUpper capital).symm
  · have same : d.toLower = d := Char.toLower_eq_of_not_isUpper (Char.not_isUpper_of_isLower small)
    rintro (rfl | rfl)
    · exact same
    · rw [Char.toLower_toUpper_eq_toLower, same]

theorem lower_eq_iff {s : List Char} {word : String} (small : ∀ d ∈ word.toList, d.isLower) :
    lower s = word.toList ↔ Spells s word := by
  unfold Spells lower
  generalize word.toList = ds at small
  induction ds generalizing s with
  | nil => simp
  | cons d ds ih =>
    obtain ⟨first, small⟩ := List.forall_mem_cons.1 small
    cases s with
    | nil => simp
    | cons c s =>
      rw [List.map_cons, List.cons.injEq, toLower_eq_iff first, ih small, List.forall₂_cons]

theorem readBool_eq_ok {s : List Char} {b : Bool} :
    readBool s = .ok b ↔ Spells s (Value.showBool b) := by
  have yes : lower s = "true".toList ↔ Spells s "true" := lower_eq_iff (List.all_eq_true.1 rfl)
  have no : lower s = "false".toList ↔ Spells s "false" := lower_eq_iff (List.all_eq_true.1 rfl)
  unfold readBool
  constructor
  · intro h
    split at h
    next same =>
      cases h
      exact yes.1 same
    next =>
      split at h
      next same =>
        cases h
        exact no.1 same
      next => cases h
  · intro h
    cases b with
    | true => exact if_pos (yes.2 h)
    | false =>
      have same := no.2 h
      have other : lower s ≠ "true".toList := by
        rw [same]
        decide
      rw [if_neg other, if_pos same]

/-! ## Conversions -/

section
variable {t : ValueType} {raw : String}

theorem convert_eq_ok {v : Value} : convert t raw = .ok v ↔ read t raw = .ok v := by
  rw [convert]
  cases read t raw <;> simp [Except.mapError]

/-- A literal that cannot be read is reported as it stands, with the type asked for. -/
theorem convert_eq_error {e : ValueError} :
    convert t raw = .error e ↔ ∃ fault, read t raw = .error fault ∧ e = ⟨raw, t, fault⟩ := by
  rw [convert]
  cases read t raw <;> simp [Except.mapError, eq_comm]

theorem read_integer : read .integer raw = (readInteger (core raw).toList).map .integer := by
  rw [read, toList_core]

theorem convert_integer_eq_ok {v : Value} :
    convert .integer raw = .ok v ↔
      ∃ n : Int64, Numeral (core raw).toList n.toInt ∧ v = .integer n := by
  rw [convert_eq_ok, read_integer]
  constructor
  · intro h
    obtain ⟨n, read, rfl⟩ := exists_of_map_eq_ok h
    exact ⟨n, readInteger_eq_ok.1 read, rfl⟩
  · rintro ⟨n, numeral, rfl⟩
    rw [readInteger_eq_ok.2 numeral]
    rfl

/-- A numeral that 64 bits do not hold is refused, on the side where it lies. -/
theorem convert_integer_of_clip {k : Int} (numeral : Numeral (core raw).toList k)
    {fault : LiteralFault} (outside : clip k = .error fault) :
    convert .integer raw = .error ⟨raw, .integer, fault⟩ := by
  refine convert_eq_error.2 ⟨fault, ?_, rfl⟩
  rw [read_integer, readInteger_numeral numeral, outside]
  rfl

theorem convert_integer_text {n : Int64} (h : core raw = (Value.integer n).text) :
    convert .integer raw = .ok (.integer n) := by
  refine convert_integer_eq_ok.2 ⟨n, ?_, rfl⟩
  rw [h]
  exact readInteger_eq_ok.1 (readInteger_toString n)

theorem convert_bool_eq_ok {v : Value} :
    convert .bool raw = .ok v ↔
      ∃ b, Spells (core raw).toList (Value.showBool b) ∧ v = .bool b := by
  rw [convert_eq_ok, read, toList_core]
  constructor
  · intro h
    obtain ⟨b, read, rfl⟩ := exists_of_map_eq_ok h
    exact ⟨b, readBool_eq_ok.1 read, rfl⟩
  · rintro ⟨b, spelled, rfl⟩
    rw [readBool_eq_ok.2 spelled]
    rfl

end

/-! ## Texts around a numeral -/

section
variable {t w w' : String}

theorem trim_between (before : ∀ c ∈ w.toList, Text.isBlank c)
    (after : ∀ c ∈ w'.toList, Text.isBlank c) (plain : ∀ c ∈ t.toList, isPlain c) :
    Text.trim (w ++ t ++ w') = t := by
  have shown (c : Char) (hc : c ∈ t.toList) : Text.isBlank c = false :=
    (isPlain_iff.1 (plain c hc)).1
  rw [Text.trim, String.toList_append, String.toList_append,
    Text.trimChars_between before after (fun c hc => shown c (List.mem_of_mem_head? hc))
      fun c hc => shown c (List.mem_of_mem_getLast? hc),
    String.ofList_toList]

/-- Blanks around a text of plain characters do not count. -/
theorem core_between (before : ∀ c ∈ w.toList, Text.isBlank c)
    (after : ∀ c ∈ w'.toList, Text.isBlank c) (plain : ∀ c ∈ t.toList, isPlain c) :
    core (w ++ t ++ w') = t := by
  have bare := @trim_between t "" "" (List.forall_mem_nil _) (List.forall_mem_nil _) plain
  have unquoted := Text.stripQuoteChars_eq_self fun c hc => (isPlain_iff.1 (plain c hc)).2
  rw [String.empty_append, String.append_empty] at bare
  rw [core, trim_between before after plain, Text.stripQuotes, unquoted, String.ofList_toList, bare]

/-- Quotes around a text do not count, whatever blanks stand around them and whatever counts
of the text itself when it has no quotes. -/
theorem core_inQuotes {q : Char} (quote : Text.isQuote q)
    (before : ∀ c ∈ w.toList, Text.isBlank c) (after : ∀ c ∈ w'.toList, Text.isBlank c) :
    core (w ++ Text.inQuotes q t ++ w') = Text.trim t := by
  rw [← String.toList_inj, toList_core, content, String.toList_append, String.toList_append,
    Text.inQuotes, String.toList_ofList, Text.trimChars_quoted quote _ before after,
    Text.stripQuoteChars_quoted quote, Text.unescape_escape, Text.trim, String.toList_ofList]

end

/-- Whole numbers are exactly the numerals of numbers that 64 bits hold, and truth values
are exactly their names in letters of either size; nothing else is one, and a failure tells
the literal and the type. -/
theorem convert_exact :
    (∀ (raw : String) (v : Value), convert .integer raw = .ok v ↔
      ∃ (k : Int) (n : Int64), Numeral (core raw).toList k ∧ -2 ^ 63 ≤ k ∧ k ≤ 2 ^ 63 - 1 ∧
        n.toInt = k ∧ v = .integer n) ∧
    (∀ (raw : String) (k : Int), Numeral (core raw).toList k →
      (k < -2 ^ 63 → convert .integer raw = .error ⟨raw, .integer, .tooSmall⟩) ∧
      (2 ^ 63 - 1 < k → convert .integer raw = .error ⟨raw, .integer, .tooLarge⟩)) ∧
    (∀ (raw : String) (v : Value), convert .bool raw = .ok v ↔
      ∃ b, Spells (core raw).toList (Value.showBool b) ∧ v = .bool b) ∧
    (∀ (n : Int64) (q : Char) (w w' u u' : String), Text.isQuote q →
      (∀ c ∈ w.toList, Text.isBlank c) → (∀ c ∈ w'.toList, Text.isBlank c) →
      (∀ c ∈ u.toList, Text.isBlank c) → (∀ c ∈ u'.toList, Text.isBlank c) →
      convert .integer (w ++ (Value.integer n).text ++ w') = .ok (.integer n) ∧
        convert .integer (w ++ Text.inQuotes q (u ++ (Value.integer n).text ++ u') ++ w') =
          .ok (.integer n)) ∧
    ∀ (t : ValueType) (raw : String) (e : ValueError), convert t raw = .error e →
      e.raw = raw ∧ e.valueType = t := by
  refine ⟨fun raw v => ?_, fun raw k numeral => ?_, fun raw v => convert_bool_eq_ok,
    fun n q w w' u u' quote before after inside inside' => ?_, fun t raw e h => ?_⟩
  · rw [convert_integer_eq_ok]
    constructor
    · rintro ⟨n, numeral, rfl⟩
      have low := n.le_toInt
      have high := n.toInt_lt
      exact ⟨n.toInt, n, numeral, low, by omega, rfl, rfl⟩
    · rintro ⟨_, n, numeral, -, -, rfl, rfl⟩
      exact ⟨n, numeral, rfl⟩
  · refine ⟨fun low => convert_integer_of_clip numeral (if_pos low), fun high => ?_⟩
    have above : ¬ k < -2 ^ 63 := by omega
    exact convert_integer_of_clip numeral (by rw [clip, if_neg above, if_pos high])
  · have plain : ∀ c ∈ (Value.integer n).text.toList, isPlain c :=
      Value.isPlain_of_mem_toString n.toInt
    refine ⟨convert_integer_text (core_between before after plain), convert_integer_text ?_⟩
    rw [core_inQuotes quote before after, trim_between inside inside' plain]
  · obtain ⟨fault, -, rfl⟩ := convert_eq_error.1 h
    exact ⟨rfl, rfl⟩

/-- The least integer, in quotes and among blanks; the number below it; a word. -/
theorem convert_exact_least :
    convert .integer ("\u00a0" ++
        Text.inQuotes '\'' ("\n" ++ (Value.integer Int64.minValue).text ++ "\u3000") ++ "") =
      .ok (.integer Int64.minValue) ∧
    convert .integer "\"-009223372036854775809 \"" =
      .error ⟨"\"-009223372036854775809 \"", .integer, .tooSmall⟩ ∧
    convert .bool "' tRuE '" = .ok (.bool true) := by
  obtain ⟨-, outside, words, texts, -⟩ := convert_exact
  have digits : AllDigits "009223372036854775809".toList := List.all_eq_true.1 rfl
  have below : Numeral (core "\"-009223372036854775809 \"").toList (-9223372036854775809) :=
    .minus digits (by decide)
  have spelled : Spells (core "' tRuE '").toList "true" :=
    .cons (.inl rfl) (.cons (.inr rfl) (.cons (.inl rfl) (.cons (.inr rfl) .nil)))
  have least := texts Int64.minValue '\'' "\u00a0" "" "\n" "\u3000" (by decide)
    (List.all_eq_true.1 rfl) (List.forall_mem_nil _) (List.all_eq_true.1 rfl)
    (List.all_eq_true.1 rfl)
  exact ⟨least.2, (outside _ _ below).1 (by decide), (words _ _).2 ⟨true, spelled, rfl⟩⟩

end FilterQuery.Literal
