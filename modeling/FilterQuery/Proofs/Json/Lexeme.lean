import FilterQuery.Json.Decoder
import FilterQuery.Proofs.Numeral

/-!
# Strings and natural numbers of JSON texts

What the printer writes for a string or a natural number of 64 bits is passed over up to
its end, and read as that string or number.
-/
namespace FilterQuery.Json

open Literal

/-! ## Strings -/

namespace Quoted

theorem escapeChar_form (c : Char) :
    (∃ e, e ≠ 'u' ∧ shortEscape? e = some c ∧ escapeChar c = ['\\', e]) ∨
      (∃ x y, c.toNat < 0x20 ∧ unit? '0' '0' x y = some c.toNat ∧
        escapeChar c = ['\\', 'u', '0', '0', x, y]) ∨
      (c ≠ '\\' ∧ c ≠ '"' ∧ isControl c = false ∧ escapeChar c = [c]) := by
  unfold escapeChar
  split
  · exact .inl ⟨'"', by decide⟩
  · exact .inl ⟨'\\', by decide⟩
  · exact .inl ⟨'b', by decide⟩
  · exact .inl ⟨'f', by decide⟩
  · exact .inl ⟨'n', by decide⟩
  · exact .inl ⟨'r', by decide⟩
  · exact .inl ⟨'t', by decide⟩
  next quote backslash _ _ _ _ _ =>
    split
    next small =>
      have digits : ∀ n < 0x20,
          unit? '0' '0' (hexDigit (n / 16)) (hexDigit (n % 16)) = some n := by decide
      exact .inr (.inl ⟨_, _, small, digits _ small, rfl⟩)
    next large => exact .inr (.inr ⟨backslash, quote, by simpa [isControl] using large, rfl⟩)

theorem skip_escapeChar (c : Char) (r : Rest) : skip (escapeChar c ++ r) = skip r := by
  rcases escapeChar_form c with ⟨e, he, short, form⟩ | ⟨x, y, _, unit, form⟩ | ⟨hb, hq, hc, form⟩
  · simp [form, skip, he, short]
  · simp [form, skip, unit]
  · rw [form, List.singleton_append, skip]
    · simp [hc]
    · exact hq
    all_goals simp [hb]

theorem read_escapeChar (c : Char) (r : Rest) :
    read (escapeChar c ++ r) = (read r).map fun p => (c :: p.1, p.2) := by
  rcases escapeChar_form c with ⟨e, he, short, form⟩ | ⟨x, y, small, unit, form⟩ |
    ⟨hb, hq, hc, form⟩
  · simp [form, read, he, short]
  · have trail : isTrail c.toNat = false := by simp [isTrail]; omega
    have lead : isLead c.toNat = false := by simp [isLead]; omega
    simp [form, read, unit, trail, lead, Char.ofNat_toNat]
  · rw [form, List.singleton_append, read]
    · simp [hc]
    · exact hq
    all_goals simp [hb]

theorem skip_escapeChars (s : List Char) (r : Rest) :
    skip (escapeChars s ++ '"' :: r) = .ok r := by
  induction s with
  | nil => rfl
  | cons c s ih => rw [escapeChars, List.append_assoc, skip_escapeChar, ih]

theorem read_escapeChars (s : List Char) (r : Rest) :
    read (escapeChars s ++ '"' :: r) = .ok (s, r) := by
  induction s with
  | nil => rfl
  | cons c s ih =>
    rw [escapeChars, List.append_assoc, read_escapeChar, ih]
    rfl

end Quoted

theorem stringChars_append (s : String) (r : Rest) :
    stringChars s ++ r = '"' :: (escapeChars s.toList ++ '"' :: r) := by
  simp [stringChars]

theorem readString_stringChars (s : String) (r : Rest) :
    readString (stringChars s ++ r) = .ok s := by
  rw [stringChars_append, readString, List.tail_cons, Quoted.read_escapeChars]
  simp [Except.map, ofFlawed, Except.mapError]

/-! ## Natural numbers -/

/-- A value ends where the text does, or in front of what may follow one. -/
def Ends (r : Rest) : Prop := ∀ c ∈ r.head?, c = ',' ∨ c = ']' ∨ c = '\x7d'

section
variable {ds : List Char} {r : Rest}

theorem Ends.not_isDigit {c : Char} (hr : Ends (c :: r)) : c.isDigit = false := by
  rcases hr c rfl with rfl | rfl | rfl <;> rfl

theorem takeWhile_digits (hd : AllDigits ds) (hr : Ends r) :
    (ds ++ r).takeWhile Char.isDigit = ds ∧ skipDigits (ds ++ r) = r := by
  have stop : r.takeWhile Char.isDigit = [] ∧ r.dropWhile Char.isDigit = r := by
    cases r with
    | nil => exact ⟨rfl, rfl⟩
    | cons c r => simp [hr.not_isDigit]
  rw [skipDigits, List.takeWhile_append_of_pos hd, List.dropWhile_append_of_pos hd, stop.1,
    stop.2]
  simp

namespace Number

theorem scanAfterWhole_ends (hr : Ends r) : scanAfterWhole false r = .ok r := by
  unfold scanAfterWhole
  split
  · exact absurd (hr _ rfl) (by decide)
  · exact absurd (hr _ rfl) (by decide)
  · exact absurd (hr _ rfl) (by decide)
  · exact absurd (hr _ rfl) (by decide)
  · rfl

theorem head_toDigits {n : Nat} (hn : n ≠ 0) : (Nat.toDigits 10 n).head? ≠ some '0' := by
  induction n using Nat.strong_induction_on with
  | h n ih =>
    rw [Nat.toDigits_eq_if (by decide)]
    split
    next => simp [hn]
    next large =>
      rw [List.head?_append_of_ne_nil _ Nat.toDigits_ne_nil]
      exact ih (n / 10) (by omega) (by omega)

theorem scan_toDigits (n : Nat) (hr : Ends r) : scan false (Nat.toDigits 10 n ++ r) = .ok r := by
  by_cases hn : n = 0
  · -- A zero may begin a number only when no digit follows it.
    subst hn
    rw [Nat.toDigits_zero, List.singleton_append, scan, scanUnsigned.eq_def]
    · cases r with
      | nil => rfl
      | cons c r => simp [hr.not_isDigit, scanAfterWhole_ends hr]
    · simp
  · have started := head_toDigits hn
    obtain ⟨c, ds, digits, hc, hd⟩ := exists_toDigits_eq_cons n
    rw [digits] at started ⊢
    have zero : c ≠ '0' := by simpa using started
    have sign : c ≠ '-' := by rintro rfl; cases hc
    rw [List.cons_append, scan, scanUnsigned]
    · simp [hc, zero, (takeWhile_digits hd hr).2, scanAfterWhole_ends hr]
    · simp [zero]
    · simp [sign]

theorem takeDigits_eq (hd : AllDigits ds) (acc count : Nat)
    (h : Nat.ofDigitChars 10 ds acc ≤ limit) :
    takeDigits ds acc count = (Nat.ofDigitChars 10 ds acc, count + ds.length, []) := by
  induction ds generalizing acc count with
  | nil => rfl
  | cons c ds ih =>
    rw [ofDigitChars_cons] at h ⊢
    have fits : acc * 10 + digitValue c ≤ limit := (le_ofDigitChars ds _).trans h
    have rest := ih (allDigits_cons.1 hd).2 _ (count + 1) h
    rw [takeDigits, if_neg (Nat.not_lt.2 fits), List.length_cons, Nat.add_comm ds.length,
      ← Nat.add_assoc]
    exact rest

theorem read_toDigits (n : UInt64) (hr : Ends r) :
    read (Nat.toDigits 10 n.toNat ++ r) = .ok (.natural n) := by
  have all := allDigits_toDigits n.toNat
  have fits : n.toNat ≤ limit := by
    have := n.toNat_lt
    rw [limit, Nat.pow_eq]
    omega
  obtain ⟨digits, rest⟩ := takeWhile_digits all hr
  have taken := takeDigits_eq all 0 0 (by rwa [ofDigitChars_toDigits])
  have unsigned : (Nat.toDigits 10 n.toNat ++ r).head? ≠ some '-' := by
    rw [List.head?_append_of_ne_nil _ Nat.toDigits_ne_nil]
    intro h
    cases all '-' (List.mem_of_head? h)
  have whole : whole? false n.toNat = some (.natural n) := by simp [whole?, fits]
  simp only [read, unsigned, if_false, digits, rest, taken, ofDigitChars_toDigits]
  cases r with
  | nil => simp [whole]
  | cons c r =>
    have : c ≠ '.' ∧ c ≠ 'e' ∧ c ≠ 'E' := by
      rcases hr c rfl with rfl | rfl | rfl <;> decide
    simp [this, whole]

end Number

end

end FilterQuery.Json
