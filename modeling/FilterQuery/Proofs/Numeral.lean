import FilterQuery.Proofs.Shortest
import FilterQuery.Value.Literal

/-!
# Numerals read back

The reader of literals finds the very number that the notation shows: every 64-bit
integer, and every number of the floating point format but NaN, in any layout that puts
at most a plus before a positive exponent.
-/
namespace FilterQuery

namespace Literal

/-! ## Runs of digits -/

/-- Nothing but decimal digits. -/
def AllDigits (ds : List Char) : Prop := ∀ c ∈ ds, c.isDigit

section
variable {ds es r : List Char} {c : Char}

@[simp] theorem allDigits_nil : AllDigits [] := by simp [AllDigits]

@[simp] theorem allDigits_cons : AllDigits (c :: ds) ↔ c.isDigit ∧ AllDigits ds := by
  simp [AllDigits]

@[simp] theorem allDigits_append : AllDigits (ds ++ es) ↔ AllDigits ds ∧ AllDigits es := by
  simp [AllDigits, or_imp, forall_and]

@[simp] theorem allDigits_zeros (n : Nat) : AllDigits (List.replicate n '0') := by
  intro c hc
  rw [List.eq_of_mem_replicate hc]
  rfl

@[simp] theorem allDigits_toDigits (n : Nat) : AllDigits (Nat.toDigits 10 n) :=
  fun _ hc => Nat.isDigit_of_mem_toDigits (by decide) (by decide) hc

theorem exists_toDigits_eq_cons (n : Nat) :
    ∃ c ds, Nat.toDigits 10 n = c :: ds ∧ c.isDigit ∧ AllDigits ds := by
  obtain ⟨c, ds, digits⟩ := List.exists_cons_of_ne_nil (Nat.toDigits_ne_nil (n := n) (b := 10))
  have all := allDigits_toDigits n
  rw [digits, allDigits_cons] at all
  exact ⟨c, ds, digits, all⟩

theorem digit?_eq (c : Char) : digit? c = if c.isDigit then some (c.toNat - 48) else none := by
  simp only [digit?, Char.isDigit, Char.le_def, Bool.and_eq_true, decide_eq_true_eq, ge_iff_le]
  rfl

theorem isSome_digit? (c : Char) : (digit? c).isSome = c.isDigit := by
  rw [digit?_eq]
  cases c.isDigit <;> rfl

theorem AllDigits.all_isSome (hd : AllDigits ds) : ds.all fun d => (digit? d).isSome := by
  simp only [List.all_eq_true, isSome_digit?]
  exact hd

theorem spanDigits_append (hd : AllDigits ds) (hr : ∀ c ∈ r.head?, c.isDigit = false) :
    spanDigits (ds ++ r) = (ds, r) := by
  have stops : r.takeWhile Char.isDigit = [] ∧ r.dropWhile Char.isDigit = r := by
    cases r with
    | nil => simp
    | cons c r => simp [hr c rfl]
  simp only [spanDigits, isSome_digit?, List.span_eq_takeWhile_dropWhile,
    List.takeWhile_append_of_pos hd, List.dropWhile_append_of_pos hd, stops.1, stops.2,
    List.append_nil]

theorem spanDigits_eq_self (hd : AllDigits ds) : spanDigits ds = (ds, []) := by
  simpa using spanDigits_append hd (r := []) (by simp)

theorem digitsValue_eq (hd : AllDigits ds) : digitsValue ds = Nat.ofDigitChars 10 ds 0 := by
  rw [digitsValue, Nat.ofDigitChars]
  refine List.foldl_ext _ _ 0 fun n c hc => ?_
  rw [digit?_eq, if_pos (hd c hc), Nat.mul_comm]
  rfl

theorem ofDigitChars_cons (c : Char) (ds : List Char) (n : Nat) :
    Nat.ofDigitChars 10 (c :: ds) n = Nat.ofDigitChars 10 ds (n * 10 + (c.toNat - 48)) := by
  rw [Nat.ofDigitChars_cons, Nat.mul_comm]
  rfl

theorem le_ofDigitChars (ds : List Char) (n : Nat) : n ≤ Nat.ofDigitChars 10 ds n := by
  rw [Nat.ofDigitChars_eq_ofDigitChars_zero]
  have := Nat.le_mul_of_pos_left n (Nat.pow_pos (a := 10) (n := ds.length) (by decide))
  omega

/-! ## Integers -/

theorem readDigits_eq_ok {limit : Nat} {overflow : LiteralFault} (hd : AllDigits ds) {acc : Nat}
    (h : Nat.ofDigitChars 10 ds acc ≤ limit) :
    readDigits limit overflow ds acc = .ok (Nat.ofDigitChars 10 ds acc) := by
  induction ds generalizing acc with
  | nil => rfl
  | cons c ds ih =>
    obtain ⟨hc, hd⟩ := allDigits_cons.1 hd
    rw [ofDigitChars_cons] at h ⊢
    have fits := (le_ofDigitChars ds _).trans h
    simp only [readDigits, digit?_eq, hc, if_true, Nat.not_lt.2 fits, if_false]
    exact ih hd h

theorem readInteger_negative (hne : ds ≠ []) :
    readInteger ('-' :: ds) =
      (readDigits (Nat.pow 2 63) .tooSmall ds 0).map fun n : Nat => Int64.ofInt (-n) := by
  cases ds with
  | nil => exact absurd rfl hne
  | cons c ds =>
    rw [readInteger]
    · cases readDigits (Nat.pow 2 63) .tooSmall (c :: ds) 0 <;> rfl
    · simp

theorem readInteger_unsigned (hd : AllDigits ds) (hne : ds ≠ []) :
    readInteger ds =
      (readDigits (Nat.pow 2 63 - 1) .tooLarge ds 0).map fun n : Nat => Int64.ofNat n := by
  cases ds with
  | nil => exact absurd rfl hne
  | cons c ds =>
    have hc : c.isDigit := (allDigits_cons.1 hd).1
    unfold readInteger
    split <;> simp_all [Char.isDigit]

end

@[simp] theorem ofDigitChars_toDigits (n : Nat) :
    Nat.ofDigitChars 10 (Nat.toDigits 10 n) 0 = n :=
  Nat.ofDigitChars_toDigits (by decide) (by decide)

theorem readInteger_toString (n : Int64) : readInteger (toString n.toInt).toList = .ok n := by
  have low := n.le_toInt
  have high := n.toInt_lt
  rw [Int.toString_eq_repr, Int.repr_eq_if]
  split
  next hn =>
    have fits : n.toInt.toNat ≤ Nat.pow 2 63 - 1 := by
      rw [Nat.pow_eq]
      omega
    have value : ((n.toInt.toNat : Nat) : Int) = n.toInt := by omega
    rw [Nat.toList_repr, readInteger_unsigned (allDigits_toDigits _) Nat.toDigits_ne_nil,
      readDigits_eq_ok (allDigits_toDigits _) (by simpa using fits), ofDigitChars_toDigits]
    simp only [Except.map, ← Int64.ofInt_eq_ofNat, value, Int64.ofInt_toInt]
  next hn =>
    have digits : ("-" ++ (-n.toInt).toNat.repr).toList =
        '-' :: Nat.toDigits 10 (-n.toInt).toNat := by simp
    have fits : (-n.toInt).toNat ≤ Nat.pow 2 63 := by
      rw [Nat.pow_eq]
      omega
    have value : -(((-n.toInt).toNat : Nat) : Int) = n.toInt := by omega
    rw [digits, readInteger_negative Nat.toDigits_ne_nil,
      readDigits_eq_ok (allDigits_toDigits _) (by simpa using fits), ofDigitChars_toDigits]
    simp only [Except.map, value, Int64.ofInt_toInt]

/-! ## Decimals -/

section
variable {negative : Bool} {ds es r : List Char} {c : Char}

theorem readExponent?_unsigned (hd : AllDigits ds) (hne : ds ≠ []) :
    readExponent? ds = some (Nat.ofDigitChars 10 ds 0 : Int) := by
  cases ds with
  | nil => exact absurd rfl hne
  | cons c ds =>
    have hc : c.isDigit := (allDigits_cons.1 hd).1
    have unsigned : c ≠ '+' ∧ c ≠ '-' := by
      constructor <;> (rintro rfl; cases hc)
    simp only [readExponent?, unsigned, or_self, if_false, hd.all_isSome, ne_eq, reduceCtorEq,
      not_false_eq_true, and_self, if_true, digitsValue_eq hd]

theorem readExponent?_signed (hd : AllDigits ds) (hne : ds ≠ []) (hc : c = '+' ∨ c = '-') :
    readExponent? (c :: ds) =
      some (if c = '-' then -(Nat.ofDigitChars 10 ds 0 : Int) else Nat.ofDigitChars 10 ds 0) := by
  simp only [readExponent?, hc, if_true, hne, ne_eq, not_false_eq_true, hd.all_isSome, and_self,
    digitsValue_eq hd]

/-- Digits, perhaps with a point, up to the end or to an exponent. -/
theorem readDecimal?_whole (hd : AllDigits ds) (hne : ds ≠ []) :
    readDecimal? negative (ds ++ 'e' :: r) =
      (readExponent? r).map fun e => .ofDecimal negative (Nat.ofDigitChars 10 ds 0) e := by
  have split : spanDigits (ds ++ 'e' :: r) = (ds, 'e' :: r) :=
    spanDigits_append hd (by simp)
  simp [readDecimal?, split, hne, digitsValue_eq hd]

theorem readDecimal?_point (hd : AllDigits ds) (he : AllDigits es) (hne : ds ≠ []) :
    readDecimal? negative (ds ++ '.' :: es) =
      some (.ofDecimal negative (Nat.ofDigitChars 10 (ds ++ es) 0) (-es.length)) := by
  have first : spanDigits (ds ++ '.' :: es) = (ds, '.' :: es) :=
    spanDigits_append hd (by simp)
  simp [readDecimal?, first, spanDigits_eq_self he, hne,
    digitsValue_eq (allDigits_append.2 ⟨hd, he⟩)]

theorem readDecimal?_pointExponent (hd : AllDigits ds) (he : AllDigits es) (hne : ds ≠ []) :
    readDecimal? negative (ds ++ '.' :: (es ++ 'e' :: r)) =
      (readExponent? r).map fun e =>
        .ofDecimal negative (Nat.ofDigitChars 10 (ds ++ es) 0) (e - es.length) := by
  have first : spanDigits (ds ++ '.' :: (es ++ 'e' :: r)) = (ds, '.' :: (es ++ 'e' :: r)) :=
    spanDigits_append hd (by simp)
  have second : spanDigits (es ++ 'e' :: r) = (es, 'e' :: r) :=
    spanDigits_append he (by simp)
  simp [readDecimal?, first, second, hne, digitsValue_eq (allDigits_append.2 ⟨hd, he⟩)]

end

end Literal

namespace Decimal

open Binary64 Literal

variable {negative : Bool} {ds : List Char} {m : Nat} {q : Int}

/-- The text is read as a decimal of that value, whichever its digits. -/
def Denotes (text : List Char) (negative : Bool) (v : ℚ) : Prop :=
  ∃ (c : Nat) (e : Int),
    readDecimal? negative text = some (.ofDecimal negative c e) ∧ (c * 10 ^ e : ℚ) = v

/-- A positional text is two runs of digits around a point, of the value intended. -/
theorem positional_form (hd : AllDigits ds) (hne : ds ≠ []) (point : Int) :
    ∃ whole part, AllDigits whole ∧ AllDigits part ∧ whole ≠ [] ∧
      (positional ds point).toList = whole ++ '.' :: part ∧
      (Nat.ofDigitChars 10 (whole ++ part) 0 * 10 ^ (-(part.length : Int)) : ℚ) =
        Nat.ofDigitChars 10 ds 0 * 10 ^ (point - ds.length) := by
  unfold positional
  split
  next low =>
    -- The point stands before the digits, with zeros between them.
    refine ⟨['0'], List.replicate (-point).toNat '0' ++ ds, by simp, by simp [hd], by simp,
      by simp [zeros], ?_⟩
    have places : -((List.replicate (-point).toNat '0' ++ ds).length : Int) =
        point - ds.length := by
      simp; omega
    rw [places, Nat.ofDigitChars_append, Nat.ofDigitChars_append, Nat.ofDigitChars_replicate_zero]
    rfl
  next high =>
    split
    next whole =>
      -- It stands behind the digits, with zeros between them.
      refine ⟨ds ++ List.replicate (point - ds.length).toNat '0', ['0'], by simp [hd], by simp,
        by simp [hne], by simp [zeros], ?_⟩
      obtain ⟨k, hk⟩ := Int.eq_ofNat_of_zero_le (a := point - ds.length) (by omega)
      rw [Nat.ofDigitChars_append, Nat.ofDigitChars_append, hk]
      simp [Nat.ofDigitChars_cons]
      ring
    next =>
      -- It stands among the digits.
      have halves : AllDigits (ds.take point.toNat) ∧ AllDigits (ds.drop point.toNat) := by
        rwa [← allDigits_append, List.take_append_drop]
      refine ⟨ds.take point.toNat, ds.drop point.toNat, halves.1, halves.2, ?_, by simp, ?_⟩
      · simp [hne]
        omega
      · have places : -((ds.drop point.toNat).length : Int) = point - ds.length := by
          simp; omega
        rw [places, List.take_append_drop]

theorem denotes_positional (hd : AllDigits ds) (hne : ds ≠ []) (point : Int) :
    Denotes (positional ds point).toList negative
      (Nat.ofDigitChars 10 ds 0 * 10 ^ (point - ds.length)) := by
  obtain ⟨whole, part, hw, hp, started, text, value⟩ := positional_form hd hne point
  exact ⟨_, _, by rw [text, readDecimal?_point hw hp started], value⟩

theorem readExponent?_text {plus : String} (hplus : plus = "" ∨ plus = "+") (e : Int) :
    readExponent? (if e < 0 then "-" ++ toString (-e).toNat else plus ++ toString e.toNat).toList =
      some e := by
  split
  next he =>
    have text : ("-" ++ toString (-e).toNat).toList = '-' :: Nat.toDigits 10 (-e).toNat := by simp
    rw [text, readExponent?_signed (allDigits_toDigits _) Nat.toDigits_ne_nil (.inr rfl)]
    simp
    omega
  next he =>
    have value : ((e.toNat : Nat) : Int) = e := by omega
    rcases hplus with rfl | rfl
    · have text : ("" ++ toString e.toNat).toList = Nat.toDigits 10 e.toNat := by simp
      rw [text, readExponent?_unsigned (allDigits_toDigits _) Nat.toDigits_ne_nil,
        ofDigitChars_toDigits, value]
    · have text : ("+" ++ toString e.toNat).toList = '+' :: Nat.toDigits 10 e.toNat := by simp
      rw [text, readExponent?_signed (allDigits_toDigits _) Nat.toDigits_ne_nil (.inl rfl),
        ofDigitChars_toDigits, value]
      rfl

theorem denotes_scientific {plus : String} (hplus : plus = "" ∨ plus = "+") (hd : AllDigits ds)
    (hne : ds ≠ []) (point : Int) :
    Denotes (scientific plus ds point).toList negative
      (Nat.ofDigitChars 10 ds 0 * 10 ^ (point - ds.length)) := by
  have exponent := readExponent?_text hplus (point - 1)
  unfold scientific
  dsimp only
  generalize (if point - 1 < 0 then "-" ++ toString (-(point - 1)).toNat
    else plus ++ toString (point - 1).toNat) = e at exponent ⊢
  match ds, hd, hne with
  | [d], hd, hne =>
    have text : (d.toString ++ "e" ++ e).toList = [d] ++ 'e' :: e.toList := by simp
    refine ⟨_, _, by rw [text, readDecimal?_whole hd hne, exponent, Option.map_some], ?_⟩
    simp
  | d :: d' :: r, hd, _ =>
    have text : (d.toString ++ "." ++ String.ofList (d' :: r) ++ "e" ++ e).toList =
        [d] ++ '.' :: (d' :: r ++ 'e' :: e.toList) := by simp
    have parts : AllDigits [d] ∧ AllDigits (d' :: r) := allDigits_append.1 hd
    refine ⟨_, _, by rw [text, readDecimal?_pointExponent parts.1 parts.2 (by simp), exponent,
      Option.map_some], ?_⟩
    have places : point - 1 - (d' :: r).length = point - (d :: d' :: r).length := by
      simp only [List.length_cons]
      omega
    rw [places]
    rfl

theorem Layout.finite_eq (l : Layout) (negative : Bool) (m : Nat) (q : Int) :
    l.finite negative m q = (if negative then "-" else "") ++ l.finite false m q := by
  cases negative <;> simp [finite]

/-- The text of a positive magnitude denotes its shortest decimal. -/
theorem Layout.denotes_finite (l : Layout)
    (hplus : l.exponentPlus = "" ∨ l.exponentPlus = "+") (hm : m ≠ 0) :
    Denotes (l.finite false m q).toList negative
      ((shortest l.tie m q).digits * 10 ^ (shortest l.tie m q).exponent) := by
  simp only [finite, hm, if_false, Bool.false_eq_true]
  generalize shortest l.tie m q = s
  have digits := allDigits_toDigits s.digits
  have started := Nat.toDigits_ne_nil (n := s.digits) (b := 10)
  have value : (Nat.ofDigitChars 10 (Nat.toDigits 10 s.digits) 0 *
      10 ^ (s.exponent + (Nat.toDigits 10 s.digits).length -
        (Nat.toDigits 10 s.digits).length) : ℚ) = s.digits * 10 ^ s.exponent := by
    rw [ofDigitChars_toDigits, add_sub_cancel_right]
  split
  · exact value ▸ denotes_positional digits started _
  · exact value ▸ denotes_scientific hplus digits started _

/-- The text of a magnitude reads back with either sign. -/
theorem Layout.readDecimal?_finite (l : Layout)
    (hplus : l.exponentPlus = "" ∨ l.exponentPlus = "+") (canonical : Canonical m q)
    (negative : Bool) :
    readDecimal? negative (l.finite false m q).toList = some (.finite negative m q canonical) := by
  by_cases hm : m = 0
  · subst hm
    obtain rfl : q = -1074 := by simpa using canonical.2.2.2
    have text : (l.finite false 0 (-1074)).toList = ['0'] ++ '.' :: ['0'] := by simp [finite]
    rw [text, readDecimal?_point (by simp) (by simp) (by simp)]
    rfl
  · obtain ⟨c, e, read, same⟩ := l.denotes_finite hplus hm
    rw [read]
    exact congrArg some
      (ofDecimal_congr same.symm hm (ofDecimal_shortest l.tie canonical hm negative) negative)

end Decimal

namespace Literal

variable {negative : Bool} {s : List Char} {x : Binary64}

theorem readDecimal?_cons_of_not_isDigit {c : Char} {r : List Char} (hc : c.isDigit = false)
    (hp : c ≠ '.') : readDecimal? negative (c :: r) = none := by
  have first : spanDigits (c :: r) = ([], c :: r) :=
    spanDigits_append allDigits_nil (r := c :: r) (by simpa using hc)
  simp [readDecimal?, first, hp]

theorem readUnsigned?_eq_some (h : readDecimal? negative s = some x) :
    readUnsigned? negative s = some x := by
  rw [readUnsigned?, h, Option.some_or]

theorem readFloat_negative (h : readDecimal? true s = some x) : readFloat ('-' :: s) = .ok x := by
  simp only [readFloat, readUnsigned?_eq_some h]

theorem readFloat_unsigned (h : readDecimal? false s = some x) : readFloat s = .ok x := by
  unfold readFloat
  split
  next r =>
    rw [readDecimal?_cons_of_not_isDigit rfl (by decide)] at h
    cases h
  next r =>
    rw [readDecimal?_cons_of_not_isDigit rfl (by decide)] at h
    cases h
  next => simp only [readUnsigned?_eq_some h]

/-- The text of a finite number reads back with its sign. -/
theorem readFloat_finite (l : Decimal.Layout)
    (hplus : l.exponentPlus = "" ∨ l.exponentPlus = "+") {m : Nat} {q : Int}
    (canonical : Binary64.Canonical m q) (negative : Bool) :
    readFloat (l.finite negative m q).toList = .ok (.finite negative m q canonical) := by
  have read := l.readDecimal?_finite hplus canonical negative
  rw [Decimal.Layout.finite_eq, String.toList_append]
  cases negative with
  | true => exact readFloat_negative read
  | false => exact readFloat_unsigned read

/-- The text of a float that is not NaN reads back as that float. -/
theorem readFloat_showFloat (hx : x ≠ .nan) :
    readFloat (Value.showFloat x).toList = .ok x := by
  cases x with
  | nan => exact absurd rfl hx
  | infinite negative => cases negative <;> rfl
  | finite negative m q canonical =>
    exact readFloat_finite Value.floatLayout (.inl rfl) canonical negative

end Literal

end FilterQuery
