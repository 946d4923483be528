/-!
# Hexadecimal digits

Escapes of JSON strings, of quoted scalars, of tags and of regular expressions name their
characters by hexadecimal digits, in lower or upper case.
-/
namespace FilterQuery.Text

/-- The value of a digit. -/
def hexValue? (c : Char) : Option Nat :=
  if '0' ≤ c ∧ c ≤ '9' then some (c.toNat - '0'.toNat)
  else if 'a' ≤ c ∧ c ≤ 'f' then some (c.toNat - 'a'.toNat + 10)
  else if 'A' ≤ c ∧ c ≤ 'F' then some (c.toNat - 'A'.toNat + 10)
  else none

end FilterQuery.Text
