/-!
# Quoted literals

A literal may stand in single or double quotes. Inside them a backslash protects the
quote character in use and itself; before any other character, and at the end, it stands
for itself. A text that does not begin and end with the same quote is taken as it is.
-/
namespace FilterQuery.Text

/-- Resolves the escapes between quotes of kind `q`. -/
def unescape (q : Char) : List Char → List Char
  | [] => []
  | '\\' :: d :: r =>
    if d = q ∨ d = '\\' then d :: unescape q r else '\\' :: d :: unescape q r
  | c :: r => c :: unescape q r

/-- Puts a backslash before each `q` and each backslash. -/
def escape (q : Char) : List Char → List Char
  | [] => []
  | c :: r => if c = q ∨ c = '\\' then '\\' :: c :: escape q r else c :: escape q r

def isQuote (c : Char) : Bool := c = '"' || c = '\''

/-- The quote character that both opens and closes the text, with what is between. -/
def quoted? : List Char → Option (Char × List Char)
  | [] => none
  | q :: r =>
    match r.getLast? with
    | some l => if isQuote q ∧ l = q then some (q, r.dropLast) else none
    | none => none

/-- Removes one layer of matching quotes and resolves the escapes inside. -/
def stripQuoteChars (s : List Char) : List Char :=
  match quoted? s with
  | some (q, inner) => unescape q inner
  | none => s

def stripQuotes (s : String) : String := String.ofList (stripQuoteChars s.toList)

theorem unescape_cons_of_ne {c : Char} (q : Char) (r : List Char) (h : c ≠ '\\') :
    unescape q (c :: r) = c :: unescape q r := by
  rw [unescape]
  exact fun _ _ hc _ => h hc

theorem unescape_escape (q : Char) (s : List Char) : unescape q (escape q s) = s := by
  induction s with
  | nil => rfl
  | cons c r ih =>
    by_cases h : c = q ∨ c = '\\'
    · simp [escape, h, unescape, ih]
    · simp [escape, h, unescape_cons_of_ne q _ (fun e => h (.inr e)), ih]

end FilterQuery.Text
