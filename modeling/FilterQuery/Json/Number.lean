import FilterQuery.Json.Flaw
import FilterQuery.Decimal.Binary64

/-!
# Numbers of JSON texts

Whole numbers within 64 bits are kept exactly; every other number is a float. Its
significand keeps the leading digits that fit in 64 bits, and the power of ten is
applied to the rounded significand in steps of at most `10^308`.
-/
namespace FilterQuery.Json

inductive Number
  | natural (n : UInt64)
  | negative (n : Int)
  | float (x : Binary64)

def skipDigits (r : Rest) : Rest := r.dropWhile Char.isDigit

namespace Number

/-- A flaw at the end of the text is told apart from one at a character, unless the value
is only skipped. -/
def flawAt (skipping : Bool) (r : Rest) : Flaw :=
  if r.isEmpty ∧ ¬skipping then .within .endInValue r else .within .invalidNumber r

/-- Skips the digits and exponent after an `e`. -/
def scanExponent (skipping : Bool) (r : Rest) : Except Flaw Rest :=
  let digits :=
    match r with
    | '+' :: r' | '-' :: r' => r'
    | r' => r'
  match digits with
  | c :: r' => if c.isDigit then .ok (skipDigits r') else .error (flawAt skipping digits)
  | [] => .error (flawAt skipping [])

def scanAfterWhole (skipping : Bool) (r : Rest) : Except Flaw Rest :=
  match r with
  | '.' :: c :: r' =>
    if c.isDigit then
      match skipDigits r' with
      | 'e' :: r'' | 'E' :: r'' => scanExponent skipping r''
      | r'' => .ok r''
    else .error (flawAt skipping (c :: r'))
  | ['.'] => .error (flawAt skipping [])
  | 'e' :: r' | 'E' :: r' => scanExponent skipping r'
  | r' => .ok r'

/-- Skips a number without its sign. -/
def scanUnsigned (skipping : Bool) (r : Rest) : Except Flaw Rest :=
  match r with
  | [] => .error (flawAt skipping [])
  | '0' :: c :: r' =>
    if c.isDigit then .error (.within .invalidNumber (c :: r'))
    else scanAfterWhole skipping (c :: r')
  | c :: r' =>
    if c.isDigit then scanAfterWhole skipping (if c = '0' then r' else skipDigits r')
    else .error (flawAt skipping r)

/-- Skips a number. -/
def scan (skipping : Bool) : Rest → Except Flaw Rest
  | '-' :: r => scanUnsigned skipping r
  | r => scanUnsigned skipping r

/-- The largest whole number of 64 bits. -/
def limit : Nat := Nat.pow 2 64 - 1

def digitValue (c : Char) : Nat := c.toNat - '0'.toNat

/-- Takes digits while the significand stays within 64 bits; counts them. -/
def takeDigits : List Char → Nat → Nat → Nat × Nat × List Char
  | [], significand, count => (significand, count, [])
  | c :: r, significand, count =>
    if limit < significand * 10 + digitValue c then (significand, count, c :: r)
    else takeDigits r (significand * 10 + digitValue c) (count + 1)

/-- Applies a power of ten in steps of at most `10^308`; the fuel covers the exponent. -/
def scale : Nat → Binary64 → Int → Option Binary64
  | 0, x, _ => some x
  | fuel + 1, x, e =>
    let power (k : Nat) := Binary64.ofDecimal false 1 k
    if e.natAbs ≤ 308 then
      let y := if 0 ≤ e then x.mul (power e.natAbs) else x.div (power e.natAbs)
      if y.isFinite then some y else none
    else if x == .zero false then some x
    else if 0 ≤ e then none
    else scale fuel (x.div (power 308)) (e + 308)

/-- Exponents past this limit settle the value by themselves. -/
def exponentLimit : Nat := Nat.pow 2 31 - 1

/-- The digits of an exponent up to the limit, or what follows the first digit past it. -/
def takeExponent : List Char → Nat → Except Rest Nat
  | [], e => .ok e
  | c :: r, e =>
    if c.isDigit then
      if exponentLimit < e * 10 + digitValue c then .error r
      else takeExponent r (e * 10 + digitValue c)
    else .ok e

/-- The float of a significand and a power of ten; `stop` follows the number. -/
def makeFloat (negative : Bool) (significand : Nat) (e : Int) (stop : Rest) :
    Except Flaw Number :=
  match scale 4 (.ofDecimal false significand 0) e with
  | some x => .ok (.float (if negative then x.negate else x))
  | none => .error (.before .numberOutOfRange stop)

/-- A whole number, if it fits in 64 bits; a negative zero does not. -/
def whole? (negative : Bool) (n : Nat) : Option Number :=
  if negative then
    if 0 < n ∧ n ≤ Nat.pow 2 63 then some (.negative (-n)) else none
  else if n ≤ limit then some (.natural (UInt64.ofNat n)) else none

/-- Reads the exponent, if there is one, and makes the float. -/
def readExponent (negative : Bool) (significand : Nat) (e : Int) (r : Rest) :
    Except Flaw Number :=
  match r with
  | [] => makeFloat negative significand e []
  | c :: r' =>
    if c = 'e' ∨ c = 'E' then
      let below := r'.head? = some '-'
      let digits := if r'.head? = some '-' ∨ r'.head? = some '+' then r'.tail else r'
      match takeExponent digits 0 with
      | .ok k => makeFloat negative significand (if below then e - k else e + k) (skipDigits digits)
      | .error rest =>
        if significand ≠ 0 ∧ ¬below then .error (.before .numberOutOfRange rest)
        else .ok (.float (.zero negative))
    else makeFloat negative significand e r

/-- The value of the number that starts here, which must be well formed. -/
def read (start : Rest) : Except Flaw Number :=
  let negative := start.head? = some '-'
  let r := if negative then start.tail else start
  let (significand, _, dropped) := takeDigits (r.takeWhile Char.isDigit) 0 0
  match skipDigits r with
  | '.' :: r' =>
    let (significand, places, _) := takeDigits (r'.takeWhile Char.isDigit) significand 0
    readExponent negative significand (dropped.length - places) (skipDigits r')
  | r' =>
    if dropped.isEmpty ∧ ¬(r'.head? = some 'e' ∨ r'.head? = some 'E') then
      match whole? negative significand with
      | some n => .ok n
      | none => .ok (.float (if negative then (Binary64.ofDecimal false significand 0).negate
          else .ofDecimal false significand 0))
    else readExponent negative significand dropped.length r'

end Number

end FilterQuery.Json
