import FilterQuery.Proofs.Numeral

/-!
# The notation of values

In front of a comma or a closing parenthesis the text of a value shows where it ends and
which value it is, of whatever type, unless it is a NaN.
-/
namespace FilterQuery

namespace Text

/-! ## Texts that end where the reader can see it -/

/-- Two texts of one class of characters, each followed by a character outside it. -/
theorem eq_of_append_eq {p : Char → Bool} {xs ys r r' : List Char} (hx : ∀ c ∈ xs, p c)
    (hy : ∀ c ∈ ys, p c) (hr : ∀ c ∈ r.head?, p c = false) (hr' : ∀ c ∈ r'.head?, p c = false)
    (h : xs ++ r = ys ++ r') : xs = ys ∧ r = r' := by
  have stops {r : List Char} (hr : ∀ c ∈ r.head?, p c = false) : r.takeWhile p = [] := by
    cases r with
    | nil => rfl
    | cons c r => simp [hr c rfl]
  have same := congrArg (List.takeWhile p) h
  rw [List.takeWhile_append_of_pos hx, List.takeWhile_append_of_pos hy, stops hr, stops hr',
    List.append_nil, List.append_nil] at same
  subst same
  exact ⟨rfl, List.append_cancel_left h⟩

theorem toDigits_injective {b : Nat} (hb : 1 < b) (hb' : b ≤ 16) {m n : Nat}
    (h : Nat.toDigits b m = Nat.toDigits b n) : m = n := by
  have digit {i j : Nat} (hi : i < b) (hj : j < b) (h : i.digitChar = j.digitChar) : i = j := by
    have table : ∀ i < 16, ∀ j < 16, i.digitChar = j.digitChar → i = j := by decide
    exact table i (by omega) j (by omega) h
  have last (k : Nat) : k % b < b := Nat.mod_lt k (by omega)
  induction m using Nat.strong_induction_on generalizing n with
  | h m ih =>
    rw [Nat.toDigits_eq_if hb, Nat.toDigits_eq_if (n := n) hb] at h
    split at h <;> split at h
    next hm hn => exact digit hm hn (List.singleton_inj.1 h)
    next hm hn =>
      have lengths := congrArg List.length h
      simp [Nat.toDigits_ne_nil] at lengths
    next hm hn =>
      have lengths := congrArg List.length h
      simp [Nat.toDigits_ne_nil] at lengths
    next hm hn =>
      obtain ⟨front, back⟩ := List.append_inj' h rfl
      have smaller : m / b < m := Nat.div_lt_self (by omega) hb
      have quotients := ih (m / b) smaller front
      have rests := digit (last m) (last n) (List.singleton_inj.1 back)
      rw [← Nat.div_add_mod m b, ← Nat.div_add_mod n b, quotients, rests]

/-! ## Quoted texts -/

/-- The character that a letter after a backslash stands for. -/
def named : Char → Char
  | 'n' => '\n'
  | 'r' => '\r'
  | 't' => '\t'
  | '0' => '\x00'
  | e => e

theorem showChar_form (c : Char) :
    (∃ e, e ≠ 'u' ∧ named e = c ∧ showChar c = ['\\', e]) ∨
      showChar c = '\\' :: 'u' :: '\x7b' :: (Nat.toDigits 16 c.toNat ++ ['\x7d']) ∨
      c ≠ '\\' ∧ c ≠ '"' ∧ showChar c = [c] := by
  unfold showChar
  split
  · exact .inl ⟨'"', by decide⟩
  · exact .inl ⟨'\\', by decide⟩
  · exact .inl ⟨'n', by decide⟩
  · exact .inl ⟨'r', by decide⟩
  · exact .inl ⟨'t', by decide⟩
  · exact .inl ⟨'0', by decide⟩
  next quote backslash _ _ _ _ =>
    split
    · exact .inr (.inl rfl)
    · exact .inr (.inr ⟨backslash, quote, rfl⟩)

theorem exists_digitChar_of_mem_toDigits {b : Nat} (hb : 1 < b) {n : Nat} {c : Char}
    (h : c ∈ Nat.toDigits b n) : ∃ i : Nat, c = i.digitChar := by
  induction n using Nat.strong_induction_on with
  | h n ih =>
    rw [Nat.toDigits_eq_if hb] at h
    split at h
    next => exact ⟨n, List.mem_singleton.1 h⟩
    next hn =>
      rcases List.mem_append.1 h with front | back
      · exact ih (n / b) (Nat.div_lt_self (by omega) hb) front
      · exact ⟨_, List.mem_singleton.1 back⟩

theorem showChar_append_inj {c d : Char} {r r' : List Char}
    (h : showChar c ++ r = showChar d ++ r') : c = d ∧ r = r' := by
  rcases showChar_form c with ⟨e, he, hc, sc⟩ | sc | ⟨hc, -, sc⟩ <;>
    rcases showChar_form d with ⟨e', he', hd, sd⟩ | sd | ⟨hd, -, sd⟩ <;>
    rw [sc, sd] at h <;>
    simp only [List.cons_append, List.nil_append, List.append_assoc, List.cons.injEq,
      true_and] at h
  case inl.inl => exact ⟨by rw [← hc, ← hd, h.1], h.2⟩
  case inr.inl.inr.inl =>
    have brace {n : Nat} : ∀ c ∈ Nat.toDigits 16 n, (c != '\x7d') = true := by
      intro c hc
      obtain ⟨i, rfl⟩ := exists_digitChar_of_mem_toDigits (by decide) hc
      exact bne_iff_ne.2 (Nat.digitChar_ne _ (by decide))
    obtain ⟨digits, rest⟩ := eq_of_append_eq brace brace (by simp) (by simp) h
    exact ⟨Char.toNat_inj.1 (toDigits_injective (by decide) (by decide) digits),
      (List.cons.inj rest).2⟩
  case inr.inr.inr.inr => exact h
  -- A letter after the backslash is no `u`, and a character that stands for itself is no
  -- backslash.
  all_goals grind

theorem showChar_ne_quote (c : Char) (r r' : List Char) : showChar c ++ r ≠ '"' :: r' := by
  intro h
  rcases showChar_form c with ⟨_, _, _, sc⟩ | sc | ⟨_, hc, sc⟩ <;> rw [sc] at h <;> simp_all

theorem showChars_append_inj {xs ys r r' : List Char}
    (h : showChars xs ++ '"' :: r = showChars ys ++ '"' :: r') : xs = ys ∧ r = r' := by
  induction xs generalizing ys with
  | nil =>
    cases ys with
    | nil => exact ⟨rfl, (List.cons.inj h).2⟩
    | cons d ys =>
      rw [showChars, showChars, List.append_assoc] at h
      exact absurd h.symm (showChar_ne_quote d _ _)
  | cons c xs ih =>
    cases ys with
    | nil =>
      rw [showChars, showChars, List.append_assoc] at h
      exact absurd h (showChar_ne_quote c _ _)
    | cons d ys =>
      rw [showChars, showChars, List.append_assoc, List.append_assoc] at h
      obtain ⟨rfl, tail⟩ := showChar_append_inj h
      obtain ⟨rfl, rest⟩ := ih tail
      exact ⟨rfl, rest⟩

theorem quoted_append_inj {s t : String} {r r' : List Char}
    (h : (quoted s).toList ++ r = (quoted t).toList ++ r') : s = t ∧ r = r' := by
  simp only [quoted, String.toList_ofList, List.cons_append, List.append_assoc, List.nil_append,
    List.cons.injEq, true_and] at h
  obtain ⟨chars, rest⟩ := showChars_append_inj h
  exact ⟨String.toList_inj.1 chars, rest⟩

end Text

namespace Decimal

open Literal

/-! ## The characters of a numeral -/

variable {ds : List Char} {point : Int} {c : Char}

theorem mem_positional (hd : AllDigits ds) (hne : ds ≠ [])
    (h : c ∈ (positional ds point).toList) : c.isDigit ∨ c = '.' := by
  obtain ⟨whole, part, hw, hp, -, text, -⟩ := positional_form hd hne point
  rw [text, List.mem_append, List.mem_cons] at h
  rcases h with h | h | h
  · exact .inl (hw c h)
  · exact .inr h
  · exact .inl (hp c h)

theorem point_mem_positional (hd : AllDigits ds) (hne : ds ≠ []) (point : Int) :
    '.' ∈ (positional ds point).toList := by
  obtain ⟨whole, part, -, -, -, text, -⟩ := positional_form hd hne point
  simp [text]

theorem mem_scientific (hd : AllDigits ds) {plus : String}
    (h : c ∈ (scientific plus ds point).toList) :
    c.isDigit ∨ c ∈ ['.', 'e', '-'] ∨ c ∈ plus.toList := by
  unfold scientific at h
  simp only [String.toList_append, List.mem_append] at h
  obtain (mantissa | mark) | exponent := h
  · split at mantissa
    · cases mantissa
    · have := hd c
      simp_all
    next d r _ =>
      simp only [Char.toString_eq_singleton, String.toList_append, String.toList_singleton,
        String.toList_ofList, List.mem_append, List.mem_cons, List.not_mem_nil, or_false]
        at mantissa
      obtain (rfl | h) | h := mantissa
      · exact .inl (hd _ (by simp))
      · have : c = '.' := by simpa using h
        simp [this]
      · exact .inl (hd _ (by simp [h]))
  · have : c = 'e' := by simpa using mark
    simp [this]
  · split at exponent
    · simp only [String.toList_append, Nat.toString_eq_repr, Nat.toList_repr,
        List.mem_append] at exponent
      rcases exponent with sign | digits
      · have : c = '-' := by simpa using sign
        simp [this]
      · exact .inl (allDigits_toDigits _ c digits)
    · simp only [String.toList_append, Nat.toString_eq_repr, Nat.toList_repr,
        List.mem_append] at exponent
      rcases exponent with sign | digits
      · exact .inr (.inr sign)
      · exact .inl (allDigits_toDigits _ c digits)

theorem mark_mem_scientific (plus : String) (ds : List Char) (point : Int) :
    'e' ∈ (scientific plus ds point).toList := by
  simp [scientific]

theorem Layout.mem_finite (l : Layout) {negative : Bool} {m : Nat} {q : Int}
    (h : c ∈ (l.finite negative m q).toList) :
    c.isDigit ∨ c ∈ ['.', 'e', '-'] ∨ c ∈ l.exponentPlus.toList := by
  rw [finite_eq, String.toList_append, List.mem_append] at h
  rcases h with sign | body
  · have : c = '-' := by
      cases negative <;> simp_all
    simp [this]
  · simp only [finite, if_neg Bool.false_ne_true] at body
    split at body
    · have : c = '0' ∨ c = '.' ∨ c = '0' := by simpa using body
      rcases this with rfl | rfl | rfl <;> simp
    · split at body
      · have := mem_positional (allDigits_toDigits _) Nat.toDigits_ne_nil body
        simp only [List.mem_cons]
        grind
      · exact mem_scientific (allDigits_toDigits _) body

/-- The text of a finite number has a point or an exponent. -/
theorem Layout.exists_mem_finite (l : Layout) (negative : Bool) (m : Nat) (q : Int) :
    ∃ c ∈ (l.finite negative m q).toList, c = '.' ∨ c = 'e' := by
  obtain ⟨c, mem, mark⟩ : ∃ c ∈ (l.finite false m q).toList, c = '.' ∨ c = 'e' := by
    simp only [finite, if_neg Bool.false_ne_true]
    split
    · exact ⟨'.', by simp, .inl rfl⟩
    · split
      · exact ⟨'.', point_mem_positional (allDigits_toDigits _) Nat.toDigits_ne_nil _, .inl rfl⟩
      · exact ⟨'e', mark_mem_scientific _ _ _, .inr rfl⟩
  exact ⟨c, by rw [finite_eq]; simp [mem], mark⟩

end Decimal

theorem Text.mem_repr {n : Int} {c : Char} (h : c ∈ n.repr.toList) : c.isDigit ∨ c = '-' := by
  rw [Int.repr_eq_if] at h
  split at h
  · rw [Nat.toList_repr] at h
    exact .inl (Literal.allDigits_toDigits _ c h)
  · simp only [String.toList_append, List.mem_append, Nat.toList_repr] at h
    exact h.symm.imp (Literal.allDigits_toDigits _ c) (by simp)

namespace Value

open Literal

theorem mem_showFloat {x : Binary64} (hx : x ≠ .nan) {c : Char} (h : c ∈ (showFloat x).toList) :
    c.isDigit ∨ c ∈ ['.', 'e', '-', 'i', 'n', 'f'] := by
  cases x with
  | nan => exact absurd rfl hx
  | infinite negative => cases negative <;> simp [showFloat] at h ⊢ <;> grind
  | finite negative m q canonical =>
    have := floatLayout.mem_finite h
    simp [floatLayout] at this ⊢
    grind

theorem exists_mem_showFloat {x : Binary64} (hx : x ≠ .nan) :
    ∃ c ∈ (showFloat x).toList, c ∈ ['.', 'e', 'i'] := by
  cases x with
  | nan => exact absurd rfl hx
  | infinite negative => exact ⟨'i', by cases negative <;> simp [showFloat], by simp⟩
  | finite negative m q canonical =>
    obtain ⟨c, mem, mark⟩ := floatLayout.exists_mem_finite negative m q
    exact ⟨c, mem, by simp only [List.mem_cons]; grind⟩

/-! ## One value for a text -/

/-- The type of a value, told from the characters of its text. -/
def typeOfText (s : List Char) : ValueType :=
  if '"' ∈ s then .string
  else if 'u' ∈ s ∨ 'a' ∈ s then .bool
  else if '.' ∈ s ∨ 'e' ∈ s ∨ 'i' ∈ s then .float
  else .integer

theorem typeOfText_text {v : Value} (hv : v ≠ .float .nan) :
    typeOfText v.text.toList = v.valueType := by
  unfold typeOfText
  cases v with
  | integer n =>
    have absent {c : Char} (hd : c.isDigit = false) (hm : c ≠ '-') :
        c ∉ n.toInt.repr.toList := fun h => by simpa [hd, hm] using Text.mem_repr h
    simp [text, valueType, absent]
  | float x =>
    have hx : x ≠ .nan := fun h => hv (h ▸ rfl)
    have absent {c : Char} (hd : c.isDigit = false) (hm : c ∉ ['.', 'e', '-', 'i', 'n', 'f']) :
        c ∉ (showFloat x).toList := fun h => by simpa [hd, hm] using mem_showFloat hx h
    have marked : '.' ∈ (showFloat x).toList ∨ 'e' ∈ (showFloat x).toList ∨
        'i' ∈ (showFloat x).toList := by
      obtain ⟨c, mem, mark⟩ := exists_mem_showFloat hx
      simp only [List.mem_cons, List.not_mem_nil, or_false] at mark
      rcases mark with rfl | rfl | rfl <;> simp [mem]
    simp [text, valueType, absent, marked]
  | bool b => cases b <;> rfl
  | string s => simp [text, valueType, Text.quoted]

theorem eq_of_text_eq {v w : Value} (hv : v ≠ .float .nan) (hw : w ≠ .float .nan)
    (h : v.text = w.text) : v = w := by
  have types : v.valueType = w.valueType := by
    rw [← typeOfText_text hv, ← typeOfText_text hw, h]
  cases v <;> cases w <;> cases types
  case integer.integer m n =>
    have read := readInteger_toString m
    rw [show toString m.toInt = toString n.toInt from h, readInteger_toString n] at read
    rw [Except.ok.inj read]
  case float.float x y =>
    have read := readFloat_showFloat (x := x) (fun e => hv (e ▸ rfl))
    rw [show showFloat x = showFloat y from h,
      readFloat_showFloat (x := y) (fun e => hw (e ▸ rfl))] at read
    rw [Except.ok.inj read]
  case bool.bool a b => cases a <;> cases b <;> simp_all [text, showBool]
  case string.string s t =>
    have inside := congrArg (fun s => s.toList ++ []) h
    rw [(Text.quoted_append_inj inside).1]

/-- What follows a value in the notation. -/
def Follows (r : List Char) : Prop := ∃ c ∈ r.head?, c = ',' ∨ c = ')'

section
variable {v w : Value} {r r' : List Char}

theorem mem_text (hv : v ≠ .float .nan) (hs : v.valueType ≠ .string) {c : Char}
    (h : c ∈ v.text.toList) : c ≠ ',' ∧ c ≠ ')' ∧ c ≠ '"' := by
  cases v with
  | integer n =>
    rcases Text.mem_repr h with h | rfl
    · refine ⟨?_, ?_, ?_⟩ <;> (rintro rfl; cases h)
    · decide
  | float x =>
    rcases mem_showFloat (fun e => hv (e ▸ rfl)) h with h | h
    · refine ⟨?_, ?_, ?_⟩ <;> (rintro rfl; cases h)
    · grind
  | bool b => cases b <;> simp [text, showBool] at h <;> grind
  | string s => exact absurd rfl hs

theorem text_append_ne_quoted (hv : v ≠ .float .nan) (hs : v.valueType ≠ .string)
    (hr : Follows r) (s : String) : v.text.toList ++ r ≠ (Text.quoted s).toList ++ r' := by
  intro h
  have quote : (Text.quoted s).toList ++ r' =
      '"' :: (Text.showChars s.toList ++ '"' :: r') := by simp [Text.quoted]
  rw [quote] at h
  cases ht : v.text.toList with
  | nil =>
    obtain ⟨c, hc, hf⟩ := hr
    rw [ht, List.nil_append] at h
    rw [h] at hc
    cases hc
    simp at hf
  | cons c cs =>
    rw [ht, List.cons_append] at h
    exact (mem_text hv hs (c := c) (by simp [ht])).2.2 (List.cons.inj h).1

/-- Values of any types are told apart by what stands before the comma or parenthesis. -/
theorem text_append_inj (hv : v ≠ .float .nan) (hw : w ≠ .float .nan) (hr : Follows r)
    (hr' : Follows r') (h : v.text.toList ++ r = w.text.toList ++ r') : v = w ∧ r = r' := by
  by_cases hs : v.valueType = .string <;> by_cases ht : w.valueType = .string
  · cases v <;> cases hs
    cases w <;> cases ht
    obtain ⟨rfl, rest⟩ := Text.quoted_append_inj h
    exact ⟨rfl, rest⟩
  · cases v <;> cases hs
    exact absurd h.symm (text_append_ne_quoted hw ht hr' _)
  · cases w <;> cases ht
    exact absurd h (text_append_ne_quoted hv hs hr _)
  · have plain {u : Value} (hu : u ≠ .float .nan) (hs : u.valueType ≠ .string) :
        ∀ c ∈ u.text.toList, (c != ',' && c != ')') = true := fun c hc => by
      simp [mem_text hu hs hc]
    have stop {r : List Char} (hr : Follows r) :
        ∀ c ∈ r.head?, (c != ',' && c != ')') = false := by
      obtain ⟨d, hd, hf⟩ := hr
      intro c hc
      obtain rfl : d = c := by simp_all
      rcases hf with rfl | rfl <;> rfl
    obtain ⟨texts, rest⟩ :=
      Text.eq_of_append_eq (plain hv hs) (plain hw ht) (stop hr) (stop hr') h
    exact ⟨eq_of_text_eq hv hw (String.toList_inj.1 texts), rest⟩

end

end Value

end FilterQuery
