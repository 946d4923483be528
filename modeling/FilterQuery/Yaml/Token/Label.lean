import FilterQuery.Text.Hexadecimal
import FilterQuery.Yaml.Cursor
import FilterQuery.Yaml.Token

/-!
# Anchors, tags and directives

Anchors and aliases have names. A tag is written in full between angle brackets, or as a
handle, which a directive may expand, and a suffix. In the suffix, bytes may be written
as a percent sign and two hexadecimal digits.
-/
namespace FilterQuery.Yaml.Label

/-! ## Anchors -/

/-- The name of an anchor or of an alias; the cursor is at its sign. -/
def readAnchor (isAlias : Bool) (c : Cursor) : Except Flaw (String × Cursor) :=
  let (name, c') := (c.forward 1).takeWhile isWord
  let ends := c'.rest.head?.all fun d =>
    isBlank d || isBreak d || "?:,]\x7d%@`".toList.contains d
  if name.isEmpty ∨ ¬ends then
    c'.flaw (if isAlias then "while scanning an alias" else "while scanning an anchor") c.mark
      "did not find expected alphabetic or numeric character"
  else .ok (String.ofList name, c')

/-! ## Tags -/

/-- Whether a character may stand in a suffix; in full tags and in directives, commas and
square brackets may, too. -/
def isUriChar (full : Bool) (c : Char) : Bool :=
  isWord c || ";/?:@&=+$.%!~*'()".toList.contains c || (full && ",[]".toList.contains c)

/-- How many bytes a character has whose first byte this is. -/
def utf8Width (octet : Nat) : Nat :=
  if octet < 0x80 then 1
  else if octet / 0x20 = 6 then 2
  else if octet / 0x10 = 14 then 3
  else if octet / 8 = 30 then 4
  else 0

/-- The byte after a percent sign. -/
def octet? : List Char → Option Nat
  | '%' :: a :: b :: _ => do return (← Text.hexValue? a) * 16 + (← Text.hexValue? b)
  | _ => none

/-- The remaining bytes of a character, of which there should be `count`. -/
def readOctets (context : String) (start : Mark) : (count : Nat) → List UInt8 → Cursor →
    Except Flaw (List UInt8 × Cursor)
  | 0, bytes, c => .ok (bytes, c)
  | count + 1, bytes, c =>
    match octet? c.rest with
    | none => c.flaw context start "did not find URI escaped octet"
    | some o =>
      if o / 0x40 ≠ 2 then c.flaw context start "found an incorrect trailing UTF-8 octet"
      else readOctets context start count (bytes ++ [UInt8.ofNat o]) (c.forward 3)

/-- A character that is written as bytes. -/
def readEscape (context : String) (start : Mark) (c : Cursor) :
    Except Flaw (List UInt8 × Cursor) :=
  match octet? c.rest with
  | none => c.flaw context start "did not find URI escaped octet"
  | some o =>
    match utf8Width o with
    | 0 => c.flaw context start "found an incorrect leading UTF-8 octet"
    | width + 1 => readOctets context start width [UInt8.ofNat o] (c.forward 3)

/-- Where a tag or the expansion of a handle is read, for messages. -/
def uriContext (directive : Bool) : String :=
  if directive then "while parsing a %TAG directive" else "while parsing a tag"

def readUriBytes (full directive : Bool) (start : Mark) : Nat → List UInt8 → Cursor →
    Except Flaw (List UInt8 × Cursor)
  | 0, bytes, c => .ok (bytes, c)
  | fuel + 1, bytes, c =>
    match c.rest with
    | '%' :: _ => do
      let (more, c') ← readEscape (uriContext directive) start c
      readUriBytes full directive start fuel (bytes ++ more) c'
    | d :: _ =>
      if isUriChar full d then
        readUriBytes full directive start fuel (bytes ++ d.toString.toUTF8.toList) (c.forward 1)
      else .ok (bytes, c)
    | [] => .ok (bytes, c)

/-- A suffix after `head`, the part of it that has been read; together they may not be
empty. -/
def readUri (full directive : Bool) (head : String) (start : Mark) (c : Cursor) :
    Except Flaw (Tag × Cursor) := do
  let (bytes, c') ← readUriBytes full directive start (c.rest.length + 1) [] c
  if head.isEmpty ∧ bytes.isEmpty then
    c'.flaw (uriContext directive) start "did not find expected tag URI"
  else return (.ofBytes ((head.drop 1).toString.toUTF8.toList ++ bytes), c')

/-- An exclamation mark, or two with a word between them; without the second, the word may
yet be the beginning of a suffix. -/
def readHandle (directive : Bool) (start : Mark) (c : Cursor) : Except Flaw (String × Cursor) :=
  match c.rest with
  | '!' :: _ =>
    let (name, c') := (c.forward 1).takeWhile isWord
    match c'.rest with
    | '!' :: _ => .ok ("!" ++ String.ofList name ++ "!", c'.forward 1)
    | _ =>
      if directive ∧ ¬name.isEmpty then
        c'.flaw "while parsing a tag directive" start "did not find expected '!'"
      else .ok ("!" ++ String.ofList name, c')
  | _ =>
    c.flaw (if directive then "while scanning a tag directive" else "while scanning a tag") start
      "did not find expected '!'"

/-- The handle and the suffix of a tag that is not written in full. A lone exclamation mark
is a suffix without a handle. -/
def readShorthand (c : Cursor) : Except Flaw ((String × Tag) × Cursor) := do
  let (handle, c') ← readHandle false c.mark c
  if 1 < handle.length ∧ handle.endsWith "!" then
    let (suffix, c'') ← readUri false false "" c.mark c'
    return ((handle, suffix), c'')
  else
    let (suffix, c'') ← readUri false false handle c.mark c'
    return (if suffix.isEmpty then ("", .bang) else ("!", suffix), c'')

/-- The handle and the suffix of a tag; one that is written in full has no handle. -/
def readTag (inFlow : Bool) (c : Cursor) : Except Flaw ((String × Tag) × Cursor) := do
  let (tag, c') ←
    match c.rest with
    | '!' :: '<' :: _ => do
      let (suffix, c') ← readUri true false "" c.mark (c.forward 2)
      if c'.rest.head? = some '>' then pure (("", suffix), c'.forward 1)
      else c'.flaw "while scanning a tag" c.mark "did not find the expected '>'"
    | _ => readShorthand c
  if atWordEnd c'.rest ∨ inFlow ∧ c'.rest.head? = some ',' then return (tag, c')
  else c'.flaw "while scanning a tag" c.mark "did not find expected whitespace or line break"

/-! ## Directives -/

def inVersion : String := "while scanning a %YAML directive"

def readVersionNumber (start : Mark) (c : Cursor) : Except Flaw (Nat × Cursor) :=
  let (ds, c') := c.takeWhile Char.isDigit
  if ds.isEmpty then c.flaw inVersion start "did not find expected version number"
  else if 9 < ds.length then
    (c.forward 9).flaw inVersion start "found extremely long version number"
  else .ok (ds.foldl (fun n d => n * 10 + (d.toNat - '0'.toNat)) 0, c')

def readVersion (start : Mark) (c : Cursor) : Except Flaw (Token.Kind × Cursor) := do
  let (major, c') ← readVersionNumber start (c.skipWhile isBlank)
  if c'.rest.head? = some '.' then
    let (minor, c'') ← readVersionNumber start (c'.forward 1)
    return (.version major minor, c'')
  else c'.flaw inVersion start "did not find expected digit or '.' character"

def readTagHandle (start : Mark) (c : Cursor) : Except Flaw (Token.Kind × Cursor) := do
  let (handle, c') ← readHandle true start (c.skipWhile isBlank)
  if ¬c'.rest.head?.any isBlank then
    c'.flaw "while scanning a %TAG directive" start "did not find expected whitespace"
  else
    let (expansion, c'') ← readUri true true "" start (c'.skipWhile isBlank)
    if atWordEnd c''.rest then return (.tagHandle handle expansion, c'')
    else
      c''.flaw "while scanning a %TAG directive" start
        "did not find expected whitespace or line break"

def inDirective : String := "while scanning a directive"

/-- A directive with the rest of its line; the cursor is at its percent sign. -/
def readDirective (c : Cursor) : Except Flaw (Token.Kind × Cursor) := do
  let start := c.mark
  let (name, c') := (c.forward 1).takeWhile isWord
  if name.isEmpty then c'.flaw inDirective start "could not find expected directive name"
  else if ¬atWordEnd c'.rest then
    c'.flaw inDirective start "found unexpected non-alphabetical character"
  else
    let (kind, c'') ←
      if name = "YAML".toList then readVersion start c'
      else if name = "TAG".toList then readTagHandle start c'
      else c'.flaw inDirective start "found unknown directive name"
    let after := (c''.skipWhile isBlank).skipComment
    if atLineEnd after.rest then return (kind, after.readBreak.2)
    else after.flaw inDirective start "did not find expected comment or line break"

end FilterQuery.Yaml.Label
