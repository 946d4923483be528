import FilterQuery.Json.Number
import FilterQuery.Json.Quoted

/-!
# The outline of a JSON text

An outline is a JSON text as a tree of values with their places. It goes as far as the
text keeps to the grammar and marks the point where it does not, so that what a reader
of the tree asks for first decides which flaw of the text it meets.

Numbers and strings are outlined by their form alone; their values are worked out where
they are asked for. A reader that only skips a value words some flaws differently.
-/
namespace FilterQuery.Json

/-- Where a list of items or members goes on in neither of the two ways that it could. -/
inductive Gap
  /-- The list closes, or the text ends, after a comma. -/
  | afterComma (here : Rest)
  /-- Neither a comma nor the end of the list follows. -/
  | unseparated (here : Rest)
  deriving DecidableEq, Repr

mutual

/-- A value and its place. -/
inductive Outline
  | null (start stop : Rest)
  | bool (b : Bool) (start stop : Rest)
  | number (start stop : Rest)
  | string (start stop : Rest)
  | array (start : Rest) (items : Items)
  | object (start : Rest) (members : Members)
  /-- No value can be made out from here on. -/
  | broken (start : Rest)

/-- What stands between the brackets of an array. -/
inductive Items
  | close (stop : Rest)
  | cons (item : Outline) (next : Items)
  | cut (gap : Gap)

/-- What stands between the braces of an object. -/
inductive Members
  | close (stop : Rest)
  | cons (keyStart keyStop : Rest) (value : Outline) (next : Members)
  /-- A key is not followed by a colon. -/
  | noColon (keyStart keyStop : Rest)
  /-- No key can be made out. -/
  | brokenKey (start : Rest)
  /-- Something else than a key stands here. -/
  | notKey (here : Rest)
  | cut (gap : Gap)

end

namespace Outline

def start : Outline → Rest
  | null start _ | bool _ start _ | number start _ | string start _ | array start _
  | object start _ | broken start => start

/-- What is left after a word. -/
def passWord : List Char → Rest → Option Rest
  | [], r => some r
  | w :: ws, c :: r => if w = c then passWord ws r else none
  | _ :: _, [] => none

/-- The flaw of a text that begins like a word and goes on differently. -/
def wordFlaw : List Char → Rest → Flaw
  | [], r => .before .expectedIdent r
  | _ :: _, [] => .before .endInValue []
  | w :: ws, c :: r => if w = c then wordFlaw ws r else .within .expectedIdent (c :: r)

def ofWord (word : String) (make : Rest → Rest → Outline) (start : Rest) : Outline :=
  match passWord word.toList start with
  | some stop => make start stop
  | none => .broken start

/-- The outline of a value without parts. -/
def ofScalar (start : Rest) : Outline :=
  match start with
  | [] => .broken []
  | '"' :: r =>
    match Quoted.skip r with
    | .ok stop => .string start stop
    | .error _ => .broken start
  | 'n' :: _ => ofWord "null" .null start
  | 't' :: _ => ofWord "true" (.bool true) start
  | 'f' :: _ => ofWord "false" (.bool false) start
  | c :: _ =>
    if c = '-' ∨ c.isDigit then
      match Number.scan false start with
      | .ok stop => .number start stop
      | .error _ => .broken start
    else .broken start

end Outline

mutual

/-- What follows a value, unless something in it is broken. -/
def Outline.stop? : Outline → Option Rest
  | .null _ stop | .bool _ _ stop | .number _ stop | .string _ stop => some stop
  | .array _ items => items.stop?
  | .object _ members => members.stop?
  | .broken _ => none

def Items.stop? : Items → Option Rest
  | .close stop => some stop
  | .cons _ next => next.stop?
  | .cut _ => none

def Members.stop? : Members → Option Rest
  | .close stop => some stop
  | .cons _ _ _ next => next.stop?
  | .noColon .. | .brokenKey _ | .notKey _ | .cut _ => none

end

mutual

/-- The outline of the value that starts here. Every step passes a character or goes from
an item to its value, so twice the length of the text is fuel enough. -/
def Outline.ofRest : Nat → Rest → Outline
  | 0, start => .broken start
  | fuel + 1, start =>
    match start with
    | '[' :: r =>
      .array start
        (match skipBlank r with
        | ']' :: r' => .close r'
        | [] => .cut (.unseparated [])
        | r' => Items.ofRest fuel r')
    | '\x7b' :: r =>
      .object start
        (match skipBlank r with
        | '\x7d' :: r' => .close r'
        | [] => .cut (.unseparated [])
        | r' => Members.ofRest fuel r')
    | _ => .ofScalar start

/-- The items from one that starts here; nothing is outlined after a broken one. -/
def Items.ofRest : Nat → Rest → Items
  | 0, here => .cut (.unseparated here)
  | fuel + 1, here =>
    let item := Outline.ofRest fuel here
    .cons item
      (match item.stop?.map skipBlank with
      | none => .cut (.unseparated [])
      | some (']' :: r) => .close r
      | some (',' :: r) =>
        match skipBlank r with
        | [] => .cut (.afterComma [])
        | ']' :: r' => .cut (.afterComma (']' :: r'))
        | r' => Items.ofRest fuel r'
      | some r => .cut (.unseparated r))

/-- The members from one whose key should start here. -/
def Members.ofRest : Nat → Rest → Members
  | 0, here => .cut (.unseparated here)
  | fuel + 1, here =>
    match here with
    | '"' :: r =>
      match Quoted.skip r with
      | .error _ => .brokenKey here
      | .ok keyStop =>
        match skipBlank keyStop with
        | ':' :: r' =>
          let value := Outline.ofRest fuel (skipBlank r')
          .cons here keyStop value
            (match value.stop?.map skipBlank with
            | none => .cut (.unseparated [])
            | some ('\x7d' :: r) => .close r
            | some (',' :: r) =>
              match skipBlank r with
              | [] => .cut (.afterComma [])
              | '\x7d' :: r' => .cut (.afterComma ('\x7d' :: r'))
              | r' => Members.ofRest fuel r'
            | some r => .cut (.unseparated r))
        | _ => .noColon here keyStop
    | _ => .notKey here

end

/-- The outline of a text. -/
def Outline.ofText (text : List Char) : Outline :=
  .ofRest (2 * text.length + 2) (skipBlank text)

/-! ## Flaws

The flaw that a reader meets where the outline ends early. -/

/-- The flaw of a text that holds no value. -/
def Outline.flawAt (skipping : Bool) (start : Rest) : Flaw :=
  let none : Flaw := .within .expectedValue start
  match start with
  | [] => .within .endInValue []
  | '"' :: r =>
    if skipping then
      match Quoted.skip r with
      | .error f => f
      | .ok _ => none
    else
      match Quoted.read r with
      | .error f => f
      | .ok _ => none
  | 'n' :: _ => wordFlaw "null".toList start
  | 't' :: _ => wordFlaw "true".toList start
  | 'f' :: _ => wordFlaw "false".toList start
  | c :: _ =>
    if c = '-' ∨ c.isDigit then
      match Number.scan skipping start with
      | .error f => f
      | .ok _ => none
    else none

/-- The flaw of what is left when a bracket or brace does not close. -/
def unclosed (atEnd otherwise : Fault) (here : Rest) : Flaw :=
  .within (if here.isEmpty then atEnd else otherwise) here

def Gap.arrayFlaw (skipping : Bool) : Gap → Flaw
  | afterComma here =>
    unclosed .endInValue (if skipping then .expectedValue else .trailingComma) here
  | unseparated here => unclosed .endInArray .expectedArrayEnd here

def Gap.objectFlaw (skipping : Bool) : Gap → Flaw
  | afterComma here =>
    if skipping then unclosed .endInObject .keyNotString here
    else unclosed .endInValue .trailingComma here
  | unseparated here => unclosed .endInObject .expectedObjectEnd here

def colonFlaw (keyStop : Rest) : Flaw :=
  unclosed .endInObject .expectedColon (skipBlank keyStop)

mutual

/-- The flaw met when the value is skipped. -/
def Outline.skipFlaw? : Outline → Option Flaw
  | .array _ items => items.skipFlaw?
  | .object _ members => members.skipFlaw?
  | .broken start => some (Outline.flawAt true start)
  | .null .. | .bool .. | .number .. | .string .. => none

def Items.skipFlaw? : Items → Option Flaw
  | .close _ => none
  | .cons item next => item.skipFlaw?.or next.skipFlaw?
  | .cut gap => some (gap.arrayFlaw true)

def Members.skipFlaw? : Members → Option Flaw
  | .close _ => none
  | .cons _ _ value next => value.skipFlaw?.or next.skipFlaw?
  | .noColon _ keyStop => some (colonFlaw keyStop)
  | .brokenKey start => some (Outline.flawAt true start)
  | .notKey here => some (.within .keyNotString here)
  | .cut gap => some (gap.objectFlaw true)

end

end FilterQuery.Json
