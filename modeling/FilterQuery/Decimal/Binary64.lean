/-!
# Binary floating point numbers

The values of the 64-bit binary format as exact numbers: a finite value is a sign and
`m · 2^q` with `m` and `q` in the one canonical pair that the format stores. Rounding a
ratio of natural numbers goes to the nearest value, a half to the even one. Equality is
numeric: a NaN differs from itself and the two zeros are equal.
-/
namespace FilterQuery

/-- `m · 2^q` is a stored magnitude: 53 significant bits, or fewer at the least exponent. -/
def Binary64.Canonical (m : Nat) (q : Int) : Prop :=
  m < Nat.pow 2 53 ∧ -1074 ≤ q ∧ q ≤ 971 ∧ (Nat.pow 2 52 ≤ m ∨ q = -1074)

instance (m : Nat) (q : Int) : Decidable (Binary64.Canonical m q) :=
  inferInstanceAs (Decidable (_ ∧ _))

inductive Binary64
  | nan
  | infinite (negative : Bool)
  | finite (negative : Bool) (m : Nat) (q : Int) (canonical : Binary64.Canonical m q)
  deriving Repr

namespace Binary64

/-- Numeric equality. -/
def eq : Binary64 → Binary64 → Bool
  | infinite s, infinite t => s == t
  | finite s m q _, finite t n r _ => (m == 0 && n == 0) || (s == t && m == n && q == r)
  | _, _ => false

instance : BEq Binary64 := ⟨eq⟩

/-- A magnitude past the largest exponent is infinite. -/
def ofParts (negative : Bool) (m : Nat) (q : Int) : Binary64 :=
  if h : Canonical m q then finite negative m q h else infinite negative

def zero (negative : Bool) : Binary64 := finite negative 0 (-1074) (by decide)

instance : Inhabited Binary64 := ⟨zero false⟩

/-- `n / d` rounded to a whole number, a half to the even neighbour. -/
def roundQuotient (n d : Nat) : Nat :=
  let q := n / d
  let r := n % d
  if 2 * r < d then q else if d < 2 * r then q + 1 else q + q % 2

/-- `n · 2^k` over `d`, with the power moved to the side where it is whole. -/
def scaled (n d : Nat) (k : Int) : Nat × Nat :=
  if 0 ≤ k then (n * Nat.pow 2 k.toNat, d) else (n, d * Nat.pow 2 (-k).toNat)

/-- The exponent of the last bit that is kept of `n / d`: 53 bits remain, unless that
would pass the least exponent. -/
def lastExponent (n d : Nat) : Int :=
  let q : Int := (Nat.log2 n : Int) - Nat.log2 d - 53
  let s := scaled n d (-q)
  max (if Nat.pow 2 53 ≤ s.1 / s.2 then q + 1 else q) (-1074)

/-- The value nearest to `n / d`, for a positive `d`. -/
def ofRatio (negative : Bool) (n d : Nat) : Binary64 :=
  if n = 0 then zero negative
  else
    let q := lastExponent n d
    let s := scaled n d (-q)
    let m := roundQuotient s.1 s.2
    if m = Nat.pow 2 53 then ofParts negative (Nat.pow 2 52) (q + 1) else ofParts negative m q

/-- The value nearest to `n · 10^e`. An exponent far outside the format's range is
settled by the number of digits, without forming the power. -/
def ofDecimal (negative : Bool) (n : Nat) (e : Int) : Binary64 :=
  let width : Int := Nat.log2 n
  if n = 0 then zero negative
  else if 400 < width / 4 + e then infinite negative
  else if width + e < -400 then zero negative
  else if 0 ≤ e then ofRatio negative (n * Nat.pow 10 e.toNat) 1
  else ofRatio negative n (Nat.pow 10 (-e).toNat)

def isNegative : Binary64 → Bool
  | nan => false
  | infinite s | finite s _ _ _ => s

def negate : Binary64 → Binary64
  | nan => nan
  | infinite s => infinite !s
  | finite s m q h => finite (!s) m q h

def isFinite : Binary64 → Bool
  | finite .. => true
  | _ => false

/-- The magnitude of a finite value as a fraction. -/
def fraction (m : Nat) (q : Int) : Nat × Nat := scaled m 1 q

/-- The product, for values that are not NaN and not zero times infinity. -/
def mul : Binary64 → Binary64 → Binary64
  | finite s m q _, finite t n r _ =>
    let f := scaled (m * n) 1 (q + r)
    ofRatio (s != t) f.1 f.2
  | nan, _ | _, nan => nan
  | x, y => infinite (x.isNegative != y.isNegative)

/-- The quotient by a nonzero finite value. -/
def div : Binary64 → Binary64 → Binary64
  | finite s m q _, finite t n r _ =>
    if n = 0 then (if m = 0 then nan else infinite (s != t))
    else
      let f := scaled m n (q - r)
      ofRatio (s != t) f.1 f.2
  | infinite s, finite t _ _ _ => infinite (s != t)
  | finite s _ _ _, infinite t => zero (s != t)
  | _, _ => nan

theorem eq_comm (x y : Binary64) : x.eq y = y.eq x := by
  cases x <;> cases y <;> simp [eq, Bool.beq_comm, Bool.and_comm]

@[simp] theorem eq_nan (x : Binary64) : x.eq nan = false := by cases x <;> rfl

end Binary64

end FilterQuery
