import FilterQuery.Value
import FilterQuery.Text.Blank
import FilterQuery.Text.Quotes

/-!
# Reading literals

A literal is read as the type that its attribute asks for. Blanks around it and one
layer of matching quotes do not count, nor, except in strings, blanks inside the quotes.
-/
namespace FilterQuery

/-- Why a text is no literal of the type asked for. -/
inductive LiteralFault
  | emptyInteger
  | invalidDigit
  | tooLarge
  | tooSmall
  | emptyFloat
  | invalidFloat
  | notBoolean
  | other (reason : String)
  deriving DecidableEq, Repr

def LiteralFault.message : LiteralFault → String
  | emptyInteger => "cannot parse integer from empty string"
  | invalidDigit => "invalid digit found in string"
  | tooLarge => "number too large to fit in target type"
  | tooSmall => "number too small to fit in target type"
  | emptyFloat => "cannot parse float from empty string"
  | invalidFloat => "invalid float literal"
  | notBoolean => "expected 'true' or 'false'"
  | other reason => reason

/-- A literal that could not be read, with its text as it stood. -/
structure ValueError where
  raw : String
  valueType : ValueType
  fault : LiteralFault
  deriving DecidableEq, Repr

def ValueError.message (e : ValueError) : String :=
  s!"cannot convert '{e.raw}' to {e.valueType.name}: {e.fault.message}"

/-- A converter reads the text of a literal as a value of a type. -/
abbrev Converter := ValueType → String → Except ValueError Value

namespace Literal

/-- The value of a decimal digit. -/
def digit? (c : Char) : Option Nat :=
  if '0' ≤ c ∧ c ≤ '9' then some (c.toNat - '0'.toNat) else none

/-- Reads digits on top of `acc`, up to `limit`; the first fault in reading order counts. -/
def readDigits (limit : Nat) (overflow : LiteralFault) : List Char → Nat → Except LiteralFault Nat
  | [], acc => .ok acc
  | c :: r, acc =>
    match digit? c with
    | none => .error .invalidDigit
    | some d =>
      if limit < acc * 10 + d then .error overflow
      else readDigits limit overflow r (acc * 10 + d)

/-- An optional sign and at least one digit, within 64 bits. -/
def readInteger : List Char → Except LiteralFault Int64
  | [] => .error .emptyInteger
  | ['+'] | ['-'] => .error .invalidDigit
  | '-' :: r => (readDigits (Nat.pow 2 63) .tooSmall r 0).map fun n => Int64.ofInt (-(n : Int))
  | '+' :: r => (readDigits (Nat.pow 2 63 - 1) .tooLarge r 0).map fun n => Int64.ofNat n
  | s => (readDigits (Nat.pow 2 63 - 1) .tooLarge s 0).map fun n => Int64.ofNat n

/-- The longest run of digits at the front, with what follows. -/
def spanDigits (s : List Char) : List Char × List Char :=
  s.span fun c => (digit? c).isSome

def digitsValue (ds : List Char) : Nat := ds.foldl (fun n c => n * 10 + (digit? c).getD 0) 0

/-- A digit run, perhaps with a sign, to the end. -/
def readExponent? : List Char → Option Int
  | [] => none
  | c :: r =>
    let ds := if c = '+' ∨ c = '-' then r else c :: r
    if ds ≠ [] ∧ ds.all fun d => (digit? d).isSome then
      some (if c = '-' then -(digitsValue ds : Int) else digitsValue ds)
    else none

/-- Digits with an optional point and exponent; a digit stands on one side of the point. -/
def readDecimal? (negative : Bool) (s : List Char) : Option Binary64 :=
  let whole := spanDigits s
  let part :=
    match whole.2 with
    | '.' :: r => spanDigits r
    | r => ([], r)
  let digits := whole.1 ++ part.1
  if digits.isEmpty then none
  else
    let make (e : Int) := Binary64.ofDecimal negative (digitsValue digits) (e - part.1.length)
    match part.2 with
    | [] => some (make 0)
    | c :: r => if c = 'e' ∨ c = 'E' then (readExponent? r).map make else none

def lower (s : List Char) : List Char := s.map Char.toLower

/-- A decimal, or one of the names of infinity and NaN in any case. -/
def readUnsigned? (negative : Bool) (s : List Char) : Option Binary64 :=
  (readDecimal? negative s).or
    (if lower s = "inf".toList ∨ lower s = "infinity".toList then some (.infinite negative)
      else if lower s = "nan".toList then some .nan
      else none)

def readFloat (s : List Char) : Except LiteralFault Binary64 :=
  let found :=
    match s with
    | '+' :: r => readUnsigned? false r
    | '-' :: r => readUnsigned? true r
    | r => readUnsigned? false r
  match found with
  | some x => .ok x
  | none => .error (if s.isEmpty then .emptyFloat else .invalidFloat)

def readBool (s : List Char) : Except LiteralFault Bool :=
  if lower s = "true".toList then .ok true
  else if lower s = "false".toList then .ok false
  else .error .notBoolean

/-- The text of a literal without outer blanks and one layer of quotes. -/
def content (raw : String) : List Char := Text.stripQuoteChars (Text.trimChars raw.toList)

def read (t : ValueType) (raw : String) : Except LiteralFault Value :=
  let s := content raw
  match t with
  | .integer => (readInteger (Text.trimChars s)).map .integer
  | .float => (readFloat (Text.trimChars s)).map .float
  | .bool => (readBool (Text.trimChars s)).map .bool
  | .string => .ok (.string (String.ofList s))

/-- The converter of the literal notation of filter expressions. -/
def convert : Converter := fun t raw =>
  (read t raw).mapError fun fault => ⟨raw, t, fault⟩

theorem exists_of_map_eq_ok {ε α β : Type} {f : α → β} {x : Except ε α} {b : β}
    (h : x.map f = .ok b) : ∃ a, x = .ok a ∧ f a = b := by
  cases x with
  | error e => simp [Except.map] at h
  | ok a => exact ⟨a, rfl, by simpa [Except.map] using h⟩

theorem valueType_of_read {t : ValueType} {raw : String} {v : Value} (h : read t raw = .ok v) :
    v.valueType = t := by
  cases t with
  | integer => obtain ⟨_, _, rfl⟩ := exists_of_map_eq_ok h; rfl
  | float => obtain ⟨_, _, rfl⟩ := exists_of_map_eq_ok h; rfl
  | bool => obtain ⟨_, _, rfl⟩ := exists_of_map_eq_ok h; rfl
  | string => cases h; rfl

end Literal

end FilterQuery
