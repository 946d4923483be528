import FilterQuery.Json.Outline

/-!
# The grammar of JSON texts

An outline that goes on to its end describes the text that it was taken of: what stands
between two points of a text is a value by the grammar, with the parts that the outline
has, in their order and none left out. Only the forms of strings and numbers are taken
from the readers that pass over them.
-/
namespace FilterQuery.Json

mutual

/-- From the first of the points up to the second, the text is one value with the outline. -/
inductive Outline.Covers : Outline → Rest → Rest → Prop
  | null {start stop : Rest} (word : start = "null".toList ++ stop) :
      Outline.Covers (.null start stop) start stop
  | bool {b : Bool} {start stop : Rest} (word : start = (toString b).toList ++ stop) :
      Outline.Covers (.bool b start stop) start stop
  | number {start stop : Rest} (form : Number.scan false start = .ok stop) :
      Outline.Covers (.number start stop) start stop
  | string {start r stop : Rest} (quote : start = '"' :: r) (form : Quoted.skip r = .ok stop) :
      Outline.Covers (.string start stop) start stop
  | array {start r stop : Rest} {items : Items} (bracket : start = '[' :: r)
      (inside : Items.Covers items (skipBlank r) stop) :
      Outline.Covers (.array start items) start stop
  | object {start r stop : Rest} {members : Members} (brace : start = '\x7b' :: r)
      (inside : Members.Covers members (skipBlank r) stop) :
      Outline.Covers (.object start members) start stop

/-- Values with commas between them, and the bracket behind them. -/
inductive Items.Covers : Items → Rest → Rest → Prop
  | empty {here stop : Rest} (close : here = ']' :: stop) :
      Items.Covers (.close stop) here stop
  | last {item : Outline} {here next stop : Rest} (first : Outline.Covers item here next)
      (close : skipBlank next = ']' :: stop) : Items.Covers (.cons item (.close stop)) here stop
  | more {item item' : Outline} {items : Items} {here next r stop : Rest}
      (first : Outline.Covers item here next) (comma : skipBlank next = ',' :: r)
      (further : Items.Covers (.cons item' items) (skipBlank r) stop) :
      Items.Covers (.cons item (.cons item' items)) here stop

/-- Strings, each with a colon and a value, with commas between them, and the brace behind
them. -/
inductive Members.Covers : Members → Rest → Rest → Prop
  | empty {here stop : Rest} (close : here = '\x7d' :: stop) :
      Members.Covers (.close stop) here stop
  | last {value : Outline} {here k keyStop v next stop : Rest} (quote : here = '"' :: k)
      (key : Quoted.skip k = .ok keyStop) (colon : skipBlank keyStop = ':' :: v)
      (first : Outline.Covers value (skipBlank v) next) (close : skipBlank next = '\x7d' :: stop) :
      Members.Covers (.cons here keyStop value (.close stop)) here stop
  | more {value value' : Outline} {members : Members}
      {here k keyStop v next r here' keyStop' stop : Rest} (quote : here = '"' :: k)
      (key : Quoted.skip k = .ok keyStop) (colon : skipBlank keyStop = ':' :: v)
      (first : Outline.Covers value (skipBlank v) next) (comma : skipBlank next = ',' :: r)
      (further : Members.Covers (.cons here' keyStop' value' members) (skipBlank r) stop) :
      Members.Covers (.cons here keyStop value (.cons here' keyStop' value' members)) here stop

end

/-- The text is one value with the outline, and blanks around it. -/
def Outline.Describes (o : Outline) (text : List Char) : Prop :=
  ∃ stop, o.Covers (skipBlank text) stop ∧ skipBlank stop = []

/-! ## One outline for a text -/

/-- The forms of values that a text tells apart at its first character. -/
inductive Lead
  | null
  | bool (b : Bool)
  | number
  | string
  | array
  | object
  deriving DecidableEq

def Lead.ofChar : Char → Lead
  | 'n' => null
  | 't' => bool true
  | 'f' => bool false
  | '"' => string
  | '[' => array
  | '\x7b' => object
  | _ => number

def Outline.lead? : Outline → Option Lead
  | .null .. => some .null
  | .bool b .. => some (.bool b)
  | .number .. => some .number
  | .string .. => some .string
  | .array .. => some .array
  | .object .. => some .object
  | .broken _ => none

/-- A character that the text of a number may have. -/
def isNumeral (c : Char) : Bool := c.isDigit || c ∈ ['.', 'e', '-', '+']

theorem isNumeral_of_isDigit {c : Char} (h : c.isDigit) : isNumeral c := by simp [isNumeral, h]

theorem head_of_scan {start stop : Rest} (h : Number.scan false start = .ok stop) :
    ∃ c r, start = c :: r ∧ isNumeral c := by
  unfold Number.scan at h
  split at h
  next r => exact ⟨'-', r, rfl, rfl⟩
  next =>
    unfold Number.scanUnsigned at h
    split at h
    next => cases h
    next c r _ => exact ⟨'0', c :: r, rfl, rfl⟩
    next c r _ _ =>
      split at h
      next digit => exact ⟨c, r, rfl, isNumeral_of_isDigit digit⟩
      next => cases h

theorem Lead.ofChar_numeral {c : Char} (h : isNumeral c) : ofChar c = number ∧ c ≠ ']' := by
  refine ⟨?_, by rintro rfl; cases h⟩
  unfold ofChar
  split <;> first | rfl | cases h

/-- The first character of a value tells its form. -/
theorem Outline.Covers.head {o : Outline} {start stop : Rest} (h : o.Covers start stop) :
    ∃ c r, start = c :: r ∧ o.lead? = some (.ofChar c) ∧ c ≠ ']' := by
  cases h with
  | null word => exact ⟨'n', _, word, rfl, by decide⟩
  | @bool b _ _ word => cases b <;> exact ⟨_, _, word, rfl, by decide⟩
  | number form =>
    obtain ⟨c, r, here, numeral⟩ := head_of_scan form
    obtain ⟨lead, other⟩ := Lead.ofChar_numeral numeral
    exact ⟨c, r, here, by rw [lead, lead?], other⟩
  | string quote => exact ⟨'"', _, quote, rfl, by decide⟩
  | array bracket => exact ⟨'[', _, bracket, rfl, by decide⟩
  | object brace => exact ⟨'\x7b', _, brace, rfl, by decide⟩

theorem Outline.Covers.lead?_eq {o o' : Outline} {start stop stop' : Rest}
    (h : o.Covers start stop) (h' : o'.Covers start stop') : o.lead? = o'.lead? := by
  obtain ⟨c, r, here, lead, -⟩ := h.head
  obtain ⟨c', r', here', lead', -⟩ := h'.head
  rw [lead, lead', (List.cons.inj (here.symm.trans here')).1]

mutual

theorem Outline.Covers.unique {o o' : Outline} {start stop stop' : Rest}
    (h : o.Covers start stop) (h' : o'.Covers start stop') : o = o' ∧ stop = stop' := by
  have leads := h.lead?_eq h'
  cases h <;> cases h' <;> cases leads
  case null.null.refl word word' =>
    obtain rfl := List.append_cancel_left (word.symm.trans word')
    exact ⟨rfl, rfl⟩
  case bool.bool.refl word word' =>
    obtain rfl := List.append_cancel_left (word.symm.trans word')
    exact ⟨rfl, rfl⟩
  case number.number.refl scanned scanned' =>
    obtain rfl := Except.ok.inj (scanned.symm.trans scanned')
    exact ⟨rfl, rfl⟩
  case string.string.refl quote skipped _ quote' skipped' =>
    obtain ⟨-, rfl⟩ := List.cons.inj (quote.symm.trans quote')
    obtain rfl := Except.ok.inj (skipped.symm.trans skipped')
    exact ⟨rfl, rfl⟩
  case array.array.refl bracket inside _ _ bracket' inside' =>
    obtain ⟨-, rfl⟩ := List.cons.inj (bracket.symm.trans bracket')
    obtain ⟨rfl, rfl⟩ := inside.unique inside'
    exact ⟨rfl, rfl⟩
  case object.object.refl brace inside _ _ brace' inside' =>
    obtain ⟨-, rfl⟩ := List.cons.inj (brace.symm.trans brace')
    obtain ⟨rfl, rfl⟩ := inside.unique inside'
    exact ⟨rfl, rfl⟩
theorem Items.Covers.unique {items items' : Items} {here stop stop' : Rest}
    (h : items.Covers here stop) (h' : items'.Covers here stop') :
    items = items' ∧ stop = stop' := by
  have started {item : Outline} {here next r : Rest} (first : item.Covers here next)
      (close : here = ']' :: r) : False := by
    obtain ⟨c, t, start, -, other⟩ := first.head
    exact other (List.cons.inj (start.symm.trans close)).1
  have apart {r r' next : Rest} (comma : skipBlank next = ',' :: r)
      (close : skipBlank next = ']' :: r') : False := by
    rw [comma] at close
    exact absurd (List.cons.inj close).1 (by decide)
  cases h with
  | empty close =>
    cases h' with
    | empty close' =>
      obtain ⟨-, rfl⟩ := List.cons.inj (close.symm.trans close')
      exact ⟨rfl, rfl⟩
    | last first' | more first' => exact (started first' close).elim
  | last first close =>
    cases h' with
    | empty close' => exact (started first close').elim
    | last first' close' =>
      obtain ⟨rfl, rfl⟩ := first.unique first'
      obtain ⟨-, rfl⟩ := List.cons.inj (close.symm.trans close')
      exact ⟨rfl, rfl⟩
    | more first' comma' =>
      obtain ⟨rfl, rfl⟩ := first.unique first'
      exact (apart comma' close).elim
  | more first comma further =>
    cases h' with
    | empty close' => exact (started first close').elim
    | last first' close' =>
      obtain ⟨rfl, rfl⟩ := first.unique first'
      exact (apart comma close').elim
    | more first' comma' further' =>
      obtain ⟨rfl, rfl⟩ := first.unique first'
      obtain ⟨-, rfl⟩ := List.cons.inj (comma.symm.trans comma')
      obtain ⟨same, rfl⟩ := further.unique further'
      exact ⟨by rw [same], rfl⟩

theorem Members.Covers.unique {members members' : Members} {here stop stop' : Rest}
    (h : members.Covers here stop) (h' : members'.Covers here stop') :
    members = members' ∧ stop = stop' := by
  have started {here k r : Rest} (quote : here = '"' :: k) (close : here = '\x7d' :: r) :
      False := by
    rw [quote] at close
    exact absurd (List.cons.inj close).1 (by decide)
  have apart {r r' next : Rest} (comma : skipBlank next = ',' :: r)
      (close : skipBlank next = '\x7d' :: r') : False := by
    rw [comma] at close
    exact absurd (List.cons.inj close).1 (by decide)
  have point {here k k' keyStop keyStop' v v' : Rest} (quote : here = '"' :: k)
      (key : Quoted.skip k = .ok keyStop) (colon : skipBlank keyStop = ':' :: v)
      (quote' : here = '"' :: k') (key' : Quoted.skip k' = .ok keyStop')
      (colon' : skipBlank keyStop' = ':' :: v') : keyStop = keyStop' ∧ v = v' := by
    obtain ⟨-, rfl⟩ := List.cons.inj (quote.symm.trans quote')
    obtain rfl := Except.ok.inj (key.symm.trans key')
    exact ⟨rfl, (List.cons.inj (colon.symm.trans colon')).2⟩
  cases h with
  | empty close =>
    cases h' with
    | empty close' =>
      obtain ⟨-, rfl⟩ := List.cons.inj (close.symm.trans close')
      exact ⟨rfl, rfl⟩
    | last quote' | more quote' => exact (started quote' close).elim
  | last quote key colon first close =>
    cases h' with
    | empty close' => exact (started quote close').elim
    | last quote' key' colon' first' close' =>
      obtain ⟨rfl, rfl⟩ := point quote key colon quote' key' colon'
      obtain ⟨rfl, rfl⟩ := first.unique first'
      obtain ⟨-, rfl⟩ := List.cons.inj (close.symm.trans close')
      exact ⟨rfl, rfl⟩
    | more quote' key' colon' first' comma' =>
      obtain ⟨rfl, rfl⟩ := point quote key colon quote' key' colon'
      obtain ⟨rfl, rfl⟩ := first.unique first'
      exact (apart comma' close).elim
  | more quote key colon first comma further =>
    cases h' with
    | empty close' => exact (started quote close').elim
    | last quote' key' colon' first' close' =>
      obtain ⟨rfl, rfl⟩ := point quote key colon quote' key' colon'
      obtain ⟨rfl, rfl⟩ := first.unique first'
      exact (apart comma close').elim
    | more quote' key' colon' first' comma' further' =>
      obtain ⟨rfl, rfl⟩ := point quote key colon quote' key' colon'
      obtain ⟨rfl, rfl⟩ := first.unique first'
      obtain ⟨-, rfl⟩ := List.cons.inj (comma.symm.trans comma')
      obtain ⟨same, rfl⟩ := further.unique further'
      exact ⟨by rw [same], rfl⟩

end

/-- A text has one outline. -/
theorem Outline.Describes.unique {o o' : Outline} {text : List Char} (h : o.Describes text)
    (h' : o'.Describes text) : o = o' := by
  obtain ⟨stop, covers, -⟩ := h
  obtain ⟨stop', covers', -⟩ := h'
  exact (covers.unique covers').1

/-! ## Outlines of texts -/

section
variable {fuel : Nat} {start here stop : Rest}

theorem passWord_eq_some {word : List Char} (h : Outline.passWord word start = some stop) :
    start = word ++ stop := by
  induction word generalizing start with
  | nil => simpa [Outline.passWord] using h
  | cons w ws ih =>
    cases start with
    | nil => cases h
    | cons c r =>
      unfold Outline.passWord at h
      split at h
      next same => rw [same, ih h, List.cons_append]
      next => cases h

theorem covers_ofScalar (h : (Outline.ofScalar start).stop? = some stop) :
    (Outline.ofScalar start).Covers start stop := by
  have word {w : String} {make : Rest → Rest → Outline} {start : Rest}
      (ends : ∀ r r', (make r r').stop? = some r')
      (covers : ∀ r, (make (w.toList ++ r) r).Covers (w.toList ++ r) r)
      (h : (Outline.ofWord w make start).stop? = some stop) :
      (Outline.ofWord w make start).Covers start stop := by
    unfold Outline.ofWord at h ⊢
    cases passed : Outline.passWord w.toList start with
    | none => simp [passed, Outline.stop?] at h
    | some r =>
      simp only [passed, ends, Option.some.injEq] at h ⊢
      rw [passWord_eq_some passed, ← h]
      exact covers r
  unfold Outline.ofScalar at h ⊢
  split at h
  next => cases h
  next r =>
    cases form : Quoted.skip r with
    | error f => simp [form, Outline.stop?] at h
    | ok r' =>
      simp only [form, Outline.stop?, Option.some.injEq] at h ⊢
      subst h
      exact .string rfl form
  next => exact word (fun _ _ => rfl) (fun _ => .null rfl) h
  next => exact word (fun _ _ => rfl) (fun _ => .bool rfl) h
  next => exact word (fun _ _ => rfl) (fun _ => .bool rfl) h
  next c r _ _ _ _ =>
    by_cases numeric : c = '-' ∨ c.isDigit
    · cases form : Number.scan false (c :: r) with
      | error f => simp [numeric, form, Outline.stop?] at h
      | ok r' =>
        simp only [numeric, form, Outline.stop?, if_true, Option.some.injEq] at h ⊢
        subst h
        exact .number form
    · simp [numeric, Outline.stop?] at h

/-- Items that go on to their end, after a comma, begin with an item. -/
theorem exists_cons_of_items (h : (Items.ofRest fuel here).stop? = some stop) :
    ∃ item next, Items.ofRest fuel here = .cons item next := by
  cases fuel with
  | zero => cases h
  | succ fuel => exact ⟨_, _, rfl⟩

theorem exists_cons_of_members (h : (Members.ofRest fuel here).stop? = some stop) :
    ∃ k keyStop value next, Members.ofRest fuel here = .cons k keyStop value next := by
  cases fuel with
  | zero => cases h
  | succ fuel =>
    unfold Members.ofRest at h ⊢
    split at h
    next r =>
      cases key : Quoted.skip r with
      | error f => simp [key, Members.stop?] at h
      | ok keyStop =>
        simp only [key] at h ⊢
        split at h
        next => exact ⟨_, _, _, _, rfl⟩
        next => cases h
    next => cases h

mutual

/-- An outline with an end covers the text up to there. -/
theorem covers_ofRest : ∀ (fuel : Nat) {start stop : Rest},
    (Outline.ofRest fuel start).stop? = some stop →
      (Outline.ofRest fuel start).Covers start stop
  | 0, _, _, h => by cases h
  | fuel + 1, start, stop, h => by
    unfold Outline.ofRest at h ⊢
    split at h
    next r =>
      simp only [Outline.stop?] at h
      refine .array rfl ?_
      split at h
      next r' here =>
        cases h
        exact .empty here
      next => cases h
      next here _ _ => exact covers_itemsOfRest fuel h
    next r =>
      simp only [Outline.stop?] at h
      refine .object rfl ?_
      split at h
      next r' here =>
        cases h
        exact .empty here
      next => cases h
      next here _ _ => exact covers_membersOfRest fuel h
    next => exact covers_ofScalar h

theorem covers_itemsOfRest : ∀ (fuel : Nat) {here stop : Rest},
    (Items.ofRest fuel here).stop? = some stop → (Items.ofRest fuel here).Covers here stop
  | 0, _, _, h => by cases h
  | fuel + 1, here, stop, h => by
    unfold Items.ofRest at h ⊢
    simp only [Items.stop?] at h ⊢
    cases first : (Outline.ofRest fuel here).stop? with
    | none => simp [first, Items.stop?] at h
    | some e =>
      have item := covers_ofRest fuel first
      simp only [first, Option.map_some] at h ⊢
      split at h
      next => cases h
      next r close =>
        cases h
        exact .last item (Option.some.inj close)
      next r comma =>
        split at h
        next => cases h
        next => cases h
        next =>
          obtain ⟨item', next, form⟩ := exists_cons_of_items h
          have further := covers_itemsOfRest fuel h
          rw [form] at further ⊢
          exact .more item (Option.some.inj comma) further
      next => cases h

theorem covers_membersOfRest : ∀ (fuel : Nat) {here stop : Rest},
    (Members.ofRest fuel here).stop? = some stop → (Members.ofRest fuel here).Covers here stop
  | 0, _, _, h => by cases h
  | fuel + 1, here, stop, h => by
    unfold Members.ofRest at h ⊢
    split at h
    next k =>
      cases key : Quoted.skip k with
      | error f => simp [key, Members.stop?] at h
      | ok keyStop =>
        simp only [key] at h ⊢
        split at h
        next v colon =>
          simp only [Members.stop?] at h ⊢
          cases first : (Outline.ofRest fuel (skipBlank v)).stop? with
          | none => simp [first, Members.stop?] at h
          | some e =>
            have value := covers_ofRest fuel first
            simp only [first, Option.map_some] at h ⊢
            split at h
            next => cases h
            next r close =>
              cases h
              exact .last rfl key colon value (Option.some.inj close)
            next r comma =>
              split at h
              next => cases h
              next => cases h
              next =>
                obtain ⟨k', keyStop', value', next, form⟩ := exists_cons_of_members h
                have further := covers_membersOfRest fuel h
                rw [form] at further ⊢
                exact .more rfl key colon value (Option.some.inj comma) further
            next => cases h
        next => cases h
    next => cases h

end

/-- Whatever is read to the end of a text is read from an outline of that text. -/
theorem describes_ofText {text : List Char} (h : (Outline.ofText text).stop? = some stop)
    (blank : skipBlank stop = []) : (Outline.ofText text).Describes text :=
  ⟨stop, covers_ofRest _ h, blank⟩

end

end FilterQuery.Json
