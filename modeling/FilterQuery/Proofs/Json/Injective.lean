import FilterQuery.Proofs.Json.Grammar
import FilterQuery.Proofs.Json.Outline
import FilterQuery.Proofs.ValueText
import Std.Data.String.ToInt

/-!
# One value for a JSON text

The compact form of a value says which value it is, as long as every float in it is finite
and so has a number for its text. In front of whatever may follow a value, the first
character tells what sort of value begins and the text shows where it ends.
-/
namespace FilterQuery.Json

/-! ## The parts of a value -/

mutual

/-- The value and everything inside it. -/
def parts : Json → List Json
  | array js => array js :: partsItems js
  | object ms => object ms :: partsMembers ms
  | j => [j]

def partsItems : List Json → List Json
  | [] => []
  | j :: js => parts j ++ partsItems js

def partsMembers : List (String × Json) → List Json
  | [] => []
  | (_, j) :: ms => parts j ++ partsMembers ms

end

/-- No float among the values is a NaN or infinite. -/
def AllFinite (js : List Json) : Prop := ∀ x, float x ∈ js → x.isFinite

theorem allFinite_append {js js' : List Json} :
    AllFinite (js ++ js') ↔ AllFinite js ∧ AllFinite js' := by
  simp [AllFinite, or_imp, forall_and]

/-! ## Numbers -/

theorem isNumeral_of_mem_toString {n : Int} {c : Char} (h : c ∈ (toString n).toList) :
    isNumeral c := by
  rcases Text.mem_repr h with digit | rfl
  · exact isNumeral_of_isDigit digit
  · rfl

theorem isNumeral_of_mem_floatText {x : Binary64} (hx : x.isFinite) {c : Char}
    (h : c ∈ (floatText x).toList) : isNumeral c := by
  cases x with
  | nan | infinite => simp [Binary64.isFinite] at hx
  | finite negative m q canonical =>
    rcases floatLayout.mem_finite h with digit | mark | plus
    · exact isNumeral_of_isDigit digit
    · simp only [List.mem_cons, List.not_mem_nil, or_false] at mark
      rcases mark with rfl | rfl | rfl <;> rfl
    · obtain rfl : c = '+' := by simpa [floatLayout] using plus
      rfl

/-- A float is told from a whole number by its text. -/
theorem exists_mem_floatText {x : Binary64} (hx : x.isFinite) :
    ∃ c ∈ (floatText x).toList, c = '.' ∨ c = 'e' := by
  cases x with
  | nan | infinite => simp [Binary64.isFinite] at hx
  | finite negative m q canonical => exact floatLayout.exists_mem_finite negative m q

theorem readFloat_floatText {x : Binary64} (hx : x.isFinite) :
    Literal.readFloat (floatText x).toList = .ok x := by
  cases x with
  | nan | infinite => simp [Binary64.isFinite] at hx
  | finite negative m q canonical =>
    exact Literal.readFloat_finite floatLayout (.inr rfl) canonical negative

theorem floatText_inj {x y : Binary64} (hx : x.isFinite) (hy : y.isFinite)
    (h : floatText x = floatText y) : x = y := by
  have read := readFloat_floatText hx
  rw [h, readFloat_floatText hy] at read
  exact (Except.ok.inj read).symm

/-! ## Where a value begins -/

def lead : Json → Lead
  | null => .null
  | bool b => .bool b
  | int _ | float _ => .number
  | string _ => .string
  | array _ => .array
  | object _ => .object

theorem compactChars_lead {j : Json} (finite : AllFinite j.parts) :
    ∃ c cs, compactChars j = c :: cs ∧ Lead.ofChar c = j.lead ∧ c ≠ ']' := by
  have number {cs : List Char} (hcs : cs ≠ []) (all : ∀ c ∈ cs, isNumeral c) :
      ∃ c r, cs = c :: r ∧ Lead.ofChar c = .number ∧ c ≠ ']' := by
    obtain ⟨c, r, rfl⟩ := List.exists_cons_of_ne_nil hcs
    exact ⟨c, r, rfl, Lead.ofChar_numeral (all c (by simp))⟩
  cases j with
  | null => exact ⟨'n', "ull".toList, by simp [compactChars], rfl, by decide⟩
  | bool b =>
    cases b
    · exact ⟨'f', "alse".toList, by simp [compactChars], rfl, by decide⟩
    · exact ⟨'t', "rue".toList, by simp [compactChars], rfl, by decide⟩
  | int n =>
    rw [compactChars]
    refine number ?_ fun c => isNumeral_of_mem_toString
    rw [Int.toString_eq_repr, Int.repr_eq_if]
    split <;> simp
  | float x =>
    have hx : x.isFinite := finite x (by simp [parts])
    obtain ⟨c, mem, -⟩ := exists_mem_floatText hx
    rw [compactChars]
    exact number (List.ne_nil_of_mem mem) fun c => isNumeral_of_mem_floatText hx
  | string s => exact ⟨'"', _, by rw [compactChars, stringChars], rfl, by decide⟩
  | array js => exact ⟨'[', _, by rw [compactChars], rfl, by decide⟩
  | object ms => exact ⟨'\x7b', _, by rw [compactChars], rfl, by decide⟩

/-! ## Where it ends -/

section
variable {j j' : Json} {r r' : Rest}

theorem Ends.not_isNumeral (hr : Ends r) : ∀ c ∈ r.head?, isNumeral c = false := by
  intro c hc
  rcases hr c hc with rfl | rfl | rfl <;> rfl

theorem lead_eq_of_append (finite : AllFinite j.parts) (finite' : AllFinite j'.parts)
    (h : compactChars j ++ r = compactChars j' ++ r') : j.lead = j'.lead := by
  obtain ⟨c, cs, chars, lead, -⟩ := compactChars_lead finite
  obtain ⟨c', cs', chars', lead', -⟩ := compactChars_lead finite'
  rw [chars, chars'] at h
  rw [← lead, ← lead', (List.cons.inj h).1]

theorem stringChars_append_inj {s s' : String} (h : stringChars s ++ r = stringChars s' ++ r') :
    s = s' ∧ r = r' := by
  rw [stringChars_append, stringChars_append] at h
  have read := Quoted.read_escapeChars s.toList r
  rw [(List.cons.inj h).2, Quoted.read_escapeChars] at read
  obtain ⟨chars, rest⟩ := Prod.mk.inj (Except.ok.inj read)
  exact ⟨(String.toList_inj.1 chars).symm, rest.symm⟩

/-- Numbers are told apart by their texts, and so is the sort of number. -/
theorem number_append_inj (number : j.lead = .number) (number' : j'.lead = .number)
    (finite : AllFinite j.parts) (finite' : AllFinite j'.parts) (hr : Ends r) (hr' : Ends r')
    (h : compactChars j ++ r = compactChars j' ++ r') : j = j' ∧ r = r' := by
  have numeral {j : Json} (number : j.lead = .number) (finite : AllFinite j.parts) :
      ∀ c ∈ compactChars j, isNumeral c := by
    intro c hc
    cases j with
    | int n =>
      rw [compactChars] at hc
      exact isNumeral_of_mem_toString hc
    | float x =>
      rw [compactChars] at hc
      exact isNumeral_of_mem_floatText (finite x (by simp [parts])) hc
    | _ => cases number
  have apart {n : Int} {x : Binary64} (finite : AllFinite (float x).parts) :
      (toString n).toList ≠ (floatText x).toList := by
    intro same
    obtain ⟨c, mem, mark⟩ := exists_mem_floatText (finite x (by simp [parts]))
    rw [← same] at mem
    rcases Text.mem_repr mem with digit | rfl
    · rcases mark with rfl | rfl <;> cases digit
    · simp at mark
  obtain ⟨same, rest⟩ := Text.eq_of_append_eq (numeral number finite) (numeral number' finite')
    hr.not_isNumeral hr'.not_isNumeral h
  refine ⟨?_, rest⟩
  cases j <;> cases number <;> cases j' <;> cases number' <;> simp only [compactChars] at same
  case int.refl.int.refl m n => rw [Int.repr_inj.1 (String.toList_inj.1 same)]
  case int.refl.float.refl n x => exact (apart finite' same).elim
  case float.refl.int.refl x n => exact (apart finite same.symm).elim
  case float.refl.float.refl x y =>
    rw [floatText_inj (finite x (by simp [parts])) (finite' y (by simp [parts]))
      (String.toList_inj.1 same)]

end

theorem compactItems_ne_close {j : Json} {js : List Json} {r r' : Rest}
    (finite : AllFinite j.parts) : compactItems (j :: js) ++ ']' :: r ≠ ']' :: r' := by
  obtain ⟨c, cs, chars, -, hc⟩ := compactChars_lead finite
  rw [compactItems_append, chars, List.cons_append]
  exact fun h => hc (List.cons.inj h).1

theorem compactMembers_ne_close {m : String × Json} {ms : List (String × Json)} {r r' : Rest} :
    compactMembers (m :: ms) ++ '\x7d' :: r ≠ '\x7d' :: r' := by
  rw [compactMembers_append, stringChars_append]
  exact fun h => absurd (List.cons.inj h).1 (by decide)

theorem items_of_afterItem {js js' : List Json} {r r' : Rest}
    (h : afterItem js r = afterItem js' r') :
    compactItems js ++ ']' :: r = compactItems js' ++ ']' :: r' := by
  cases js <;> cases js' <;> simp_all [afterItem, compactItems]

theorem members_of_afterMember {ms ms' : List (String × Json)} {r r' : Rest}
    (h : afterMember ms r = afterMember ms' r') :
    compactMembers ms ++ '\x7d' :: r = compactMembers ms' ++ '\x7d' :: r' := by
  cases ms <;> cases ms' <;> simp_all [afterMember, compactMembers]

mutual

/-- Two values in front of what may follow a value are the same if the texts are, and so is
what follows. -/
theorem compactChars_append_inj (j : Json) {j' : Json} {r r' : Rest}
    (finite : AllFinite j.parts) (finite' : AllFinite j'.parts) (hr : Ends r) (hr' : Ends r')
    (h : compactChars j ++ r = compactChars j' ++ r') : j = j' ∧ r = r' := by
  have leads := lead_eq_of_append finite finite' h
  cases j <;> cases j' <;> cases leads
  case null.null.refl => exact ⟨rfl, List.append_cancel_left h⟩
  case bool.bool.refl b => exact ⟨rfl, List.append_cancel_left h⟩
  case string.string.refl s s' =>
    obtain ⟨rfl, rest⟩ := stringChars_append_inj (by simpa only [compactChars] using h)
    exact ⟨rfl, rest⟩
  case array.array.refl js js' =>
    simp only [compactChars, List.cons_append, List.append_assoc, List.cons.injEq, true_and] at h
    obtain ⟨rfl, rest⟩ := compactItems_append_inj js (fun x hx => finite x (.tail _ hx))
      (fun x hx => finite' x (.tail _ hx)) h
    exact ⟨rfl, rest⟩
  case object.object.refl ms ms' =>
    simp only [compactChars, List.cons_append, List.append_assoc, List.cons.injEq, true_and] at h
    obtain ⟨rfl, rest⟩ := compactMembers_append_inj ms (fun x hx => finite x (.tail _ hx))
      (fun x hx => finite' x (.tail _ hx)) h
    exact ⟨rfl, rest⟩
  -- What is left are the four pairs of numbers.
  all_goals exact number_append_inj rfl rfl finite finite' hr hr' h

theorem compactItems_append_inj (js : List Json) {js' : List Json} {r r' : Rest}
    (finite : AllFinite (partsItems js)) (finite' : AllFinite (partsItems js'))
    (h : compactItems js ++ ']' :: r = compactItems js' ++ ']' :: r') : js = js' ∧ r = r' := by
  match js, js' with
  | [], [] => exact ⟨rfl, (List.cons.inj h).2⟩
  | [], j' :: js' =>
    exact absurd h.symm (compactItems_ne_close (allFinite_append.1 finite').1)
  | j :: js, [] => exact absurd h (compactItems_ne_close (allFinite_append.1 finite).1)
  | j :: js, j' :: js' =>
    obtain ⟨item, items⟩ := allFinite_append.1 finite
    obtain ⟨item', items'⟩ := allFinite_append.1 finite'
    rw [compactItems_append, compactItems_append] at h
    obtain ⟨rfl, after⟩ :=
      compactChars_append_inj j item item' (ends_afterItem js r) (ends_afterItem js' r') h
    obtain ⟨rfl, rest⟩ := compactItems_append_inj js items items' (items_of_afterItem after)
    exact ⟨rfl, rest⟩

theorem compactMembers_append_inj (ms : List (String × Json)) {ms' : List (String × Json)}
    {r r' : Rest} (finite : AllFinite (partsMembers ms)) (finite' : AllFinite (partsMembers ms'))
    (h : compactMembers ms ++ '\x7d' :: r = compactMembers ms' ++ '\x7d' :: r') :
    ms = ms' ∧ r = r' := by
  match ms, ms' with
  | [], [] => exact ⟨rfl, (List.cons.inj h).2⟩
  | [], m' :: ms' => exact absurd h.symm compactMembers_ne_close
  | m :: ms, [] => exact absurd h compactMembers_ne_close
  | (k, j) :: ms, (k', j') :: ms' =>
    obtain ⟨value, members⟩ := allFinite_append.1 finite
    obtain ⟨value', members'⟩ := allFinite_append.1 finite'
    rw [compactMembers_append, compactMembers_append] at h
    obtain ⟨rfl, after⟩ := stringChars_append_inj h
    obtain ⟨rfl, tail⟩ := compactChars_append_inj j value value' (ends_afterMember ms r)
      (ends_afterMember ms' r') (List.cons.inj after).2
    obtain ⟨rfl, rest⟩ :=
      compactMembers_append_inj ms members members' (members_of_afterMember tail)
    exact ⟨rfl, rest⟩

end

/-- A compact text is the text of one value. -/
theorem compact_inj {j j' : Json} (finite : AllFinite j.parts) (finite' : AllFinite j'.parts)
    (h : compact j = compact j') : j = j' := by
  have chars : compactChars j ++ [] = compactChars j' ++ [] := by
    simpa [compact] using congrArg String.toList h
  exact (compactChars_append_inj j finite finite' (by simp [Ends]) (by simp [Ends]) chars).1

end FilterQuery.Json
