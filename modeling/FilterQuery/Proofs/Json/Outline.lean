import FilterQuery.Proofs.Json.Lexeme

/-!
# The outline of a printed value

The outline that is taken of a compact text is known beforehand: it has the structure of
the printed value, and each part stands where the text of the part begins. This holds of
values whose numbers are natural and of 64 bits.
-/
namespace FilterQuery.Json

/-! ## Values and their parts -/

mutual

/-- Every number is natural and of 64 bits. -/
def Exact : Json → Prop
  | null | bool _ | string _ => True
  | int n => ∃ k : UInt64, n = k.toNat
  | float _ => False
  | array js => ExactItems js
  | object ms => ExactMembers ms

def ExactItems : List Json → Prop
  | [] => True
  | j :: js => Exact j ∧ ExactItems js

def ExactMembers : List (String × Json) → Prop
  | [] => True
  | (_, j) :: ms => Exact j ∧ ExactMembers ms

end

theorem exactItems_iff {js : List Json} : ExactItems js ↔ ∀ j ∈ js, j.Exact := by
  induction js with
  | nil => simp [ExactItems]
  | cons j js ih => simp [ExactItems, ih]

theorem exactMembers_iff {ms : List (String × Json)} :
    ExactMembers ms ↔ ∀ m ∈ ms, m.2.Exact := by
  induction ms with
  | nil => simp [ExactMembers]
  | cons m ms ih => simp [ExactMembers, ih]

mutual

/-- The levels of arrays and objects. -/
def depth : Json → Nat
  | null | bool _ | int _ | float _ | string _ => 0
  | array js => depthItems js + 1
  | object ms => depthMembers ms + 1

def depthItems : List Json → Nat
  | [] => 0
  | j :: js => max (depth j) (depthItems js)

def depthMembers : List (String × Json) → Nat
  | [] => 0
  | (_, j) :: ms => max (depth j) (depthMembers ms)

end

theorem depthItems_le {js : List Json} {d : Nat} :
    depthItems js ≤ d ↔ ∀ j ∈ js, j.depth ≤ d := by
  induction js with
  | nil => simp [depthItems]
  | cons j js ih => simp [depthItems, ih]

theorem depthMembers_le {ms : List (String × Json)} {d : Nat} :
    depthMembers ms ≤ d ↔ ∀ m ∈ ms, m.2.depth ≤ d := by
  induction ms with
  | nil => simp [depthMembers]
  | cons m ms ih => simp [depthMembers, ih]

/-- The text from the end of an item on, with the items that are left. -/
def afterItem (js : List Json) (rest : Rest) : Rest :=
  match js with
  | [] => ']' :: rest
  | js => ',' :: (compactItems js ++ ']' :: rest)

/-- The text from the end of a member on, with the members that are left. -/
def afterMember (ms : List (String × Json)) (rest : Rest) : Rest :=
  match ms with
  | [] => '\x7d' :: rest
  | ms => ',' :: (compactMembers ms ++ '\x7d' :: rest)

theorem compactItems_append (j : Json) (js : List Json) (rest : Rest) :
    compactItems (j :: js) ++ ']' :: rest = compactChars j ++ afterItem js rest := by
  cases js <;> simp [compactItems, afterItem]

theorem compactMembers_append (k : String) (j : Json) (ms : List (String × Json)) (rest : Rest) :
    compactMembers ((k, j) :: ms) ++ '\x7d' :: rest =
      stringChars k ++ ':' :: (compactChars j ++ afterMember ms rest) := by
  cases ms <;> simp [compactMembers, afterMember]

mutual

/-- The outline of a value in compact form in front of some rest. -/
def outline (rest : Rest) : Json → Outline
  | null => .null (compactChars null ++ rest) rest
  | bool b => .bool b (compactChars (bool b) ++ rest) rest
  | int n => .number (compactChars (int n) ++ rest) rest
  | float x => .number (compactChars (float x) ++ rest) rest
  | string s => .string (compactChars (string s) ++ rest) rest
  | array js => .array (compactChars (array js) ++ rest) (outlineItems rest js)
  | object ms => .object (compactChars (object ms) ++ rest) (outlineMembers rest ms)

def outlineItems (rest : Rest) : List Json → Items
  | [] => .close rest
  | j :: js => .cons (outline (afterItem js rest) j) (outlineItems rest js)

def outlineMembers (rest : Rest) : List (String × Json) → Members
  | [] => .close rest
  | (k, j) :: ms =>
    .cons (stringChars k ++ ':' :: (compactChars j ++ afterMember ms rest))
      (':' :: (compactChars j ++ afterMember ms rest))
      (outline (afterMember ms rest) j) (outlineMembers rest ms)

end

mutual

theorem stop?_outline (rest : Rest) : ∀ j : Json, (j.outline rest).stop? = some rest
  | null | bool _ | int _ | float _ | string _ => by simp [outline, Outline.stop?]
  | array js => by simp [outline, Outline.stop?, stop?_outlineItems rest js]
  | object ms => by simp [outline, Outline.stop?, stop?_outlineMembers rest ms]

theorem stop?_outlineItems (rest : Rest) : ∀ js, (outlineItems rest js).stop? = some rest
  | [] => by simp [outlineItems, Items.stop?]
  | _ :: js => by simp [outlineItems, Items.stop?, stop?_outlineItems rest js]

theorem stop?_outlineMembers (rest : Rest) : ∀ ms, (outlineMembers rest ms).stop? = some rest
  | [] => by simp [outlineMembers, Members.stop?]
  | (_, _) :: ms => by simp [outlineMembers, Members.stop?, stop?_outlineMembers rest ms]

end

/-! ## Reading the compact form -/

theorem compactChars_natural (k : Nat) : compactChars (int k) = Nat.toDigits 10 k := by
  rw [compactChars, Int.toString_eq_repr]
  exact Nat.toList_repr

/-- A value begins with neither a blank nor a closing bracket. -/
theorem compactChars_started {j : Json} (exact : j.Exact) :
    ∃ c cs, compactChars j = c :: cs ∧ isBlank c = false ∧ c ≠ ']' := by
  cases j with
  | null => exact ⟨'n', "ull".toList, by simp [compactChars], by decide, by decide⟩
  | bool b =>
    cases b
    · exact ⟨'f', "alse".toList, by simp [compactChars], by decide, by decide⟩
    · exact ⟨'t', "rue".toList, by simp [compactChars], by decide, by decide⟩
  | int n =>
    obtain ⟨k, rfl⟩ := exact
    obtain ⟨c, ds, digits, hc, -⟩ := Literal.exists_toDigits_eq_cons k.toNat
    refine ⟨c, ds, by rw [compactChars_natural, digits], ?_, ?_⟩
    · cases hb : isBlank c with
      | false => rfl
      | true =>
        simp only [isBlank, Bool.or_eq_true, decide_eq_true_eq] at hb
        rcases hb with ((rfl | rfl) | rfl) | rfl <;> cases hc
    · rintro rfl
      cases hc
  | float x => exact exact.elim
  | string s => exact ⟨'"', _, by rw [compactChars, stringChars], by decide, by decide⟩
  | array js => exact ⟨'[', _, by rw [compactChars], by decide, by decide⟩
  | object ms => exact ⟨'\x7b', _, by rw [compactChars], by decide, by decide⟩

theorem skipBlank_cons {c : Char} (h : isBlank c = false) (r : Rest) :
    skipBlank (c :: r) = c :: r := by
  simp [skipBlank, h]

section
variable {j : Json} {rest : Rest}

theorem skipBlank_compactChars (exact : j.Exact) (r : Rest) :
    skipBlank (compactChars j ++ r) = compactChars j ++ r := by
  obtain ⟨c, cs, chars, blank, -⟩ := compactChars_started exact
  rw [chars, List.cons_append, skipBlank_cons blank]

theorem ends_afterItem (js : List Json) (rest : Rest) : Ends (afterItem js rest) := by
  cases js <;> simp [Ends, afterItem]

theorem ends_afterMember (ms : List (String × Json)) (rest : Rest) :
    Ends (afterMember ms rest) := by
  cases ms <;> simp [Ends, afterMember]

theorem ofRest_natural (k : UInt64) (hr : Ends rest) (fuel : Nat) :
    Outline.ofRest (fuel + 1) (compactChars (int k.toNat) ++ rest) =
      (int k.toNat).outline rest := by
  have scanned := Number.scan_toDigits k.toNat hr
  rw [outline, compactChars_natural]
  obtain ⟨c, ds, digits, hc, -⟩ := Literal.exists_toDigits_eq_cons k.toNat
  rw [digits, List.cons_append] at scanned ⊢
  have other : c ≠ '"' ∧ c ≠ 'n' ∧ c ≠ 't' ∧ c ≠ 'f' ∧ c ≠ '[' ∧ c ≠ '\x7b' := by
    refine ⟨?_, ?_, ?_, ?_, ?_, ?_⟩ <;> (rintro rfl; cases hc)
  rw [Outline.ofRest, Outline.ofScalar]
  · simp [hc, scanned]
  all_goals simp [other]

theorem ofRest_leaf (exact : j.Exact) (flat : j.depth = 0) (hr : Ends rest) (fuel : Nat) :
    Outline.ofRest (fuel + 1) (compactChars j ++ rest) = j.outline rest := by
  cases j with
  | null => simp [compactChars, outline, Outline.ofRest, Outline.ofScalar, Outline.ofWord,
      Outline.passWord]
  | bool b =>
    cases b <;> simp [compactChars, outline, Outline.ofRest, Outline.ofScalar, Outline.ofWord,
      Outline.passWord]
  | int n =>
    obtain ⟨k, rfl⟩ := exact
    exact ofRest_natural k hr fuel
  | float x => exact exact.elim
  | string s =>
    simp [compactChars, outline, stringChars_append, Outline.ofRest, Outline.ofScalar,
      Quoted.skip_escapeChars]
  | array js => simp [depth] at flat
  | object ms => simp [depth] at flat

/-- A list that goes on is met at its next item. -/
theorem compactItems_started (exact : j.Exact) (js : List Json) (rest : Rest) :
    skipBlank (compactItems (j :: js) ++ ']' :: rest) = compactItems (j :: js) ++ ']' :: rest ∧
      ∃ c cs, compactItems (j :: js) ++ ']' :: rest = c :: cs ∧ c ≠ ']' := by
  rw [compactItems_append]
  obtain ⟨c, cs, chars, -, hc⟩ := compactChars_started exact
  exact ⟨skipBlank_compactChars exact _, c, _, by rw [chars, List.cons_append], hc⟩

theorem compactMembers_started (k : String) (j : Json) (ms : List (String × Json)) (rest : Rest) :
    skipBlank (compactMembers ((k, j) :: ms) ++ '\x7d' :: rest) =
        compactMembers ((k, j) :: ms) ++ '\x7d' :: rest ∧
      ∃ cs, compactMembers ((k, j) :: ms) ++ '\x7d' :: rest = '"' :: cs := by
  rw [compactMembers_append, stringChars_append]
  exact ⟨skipBlank_cons rfl _, _, rfl⟩

end

mutual

theorem ofRest_compactChars (j : Json) (exact : j.Exact) (rest : Rest) (hr : Ends rest)
    (fuel : Nat) (enough : 2 * (compactChars j).length ≤ fuel) :
    Outline.ofRest fuel (compactChars j ++ rest) = j.outline rest := by
  obtain ⟨c, cs, chars, -⟩ := compactChars_started exact
  obtain ⟨fuel, rfl⟩ : ∃ f, fuel = f + 1 := Nat.exists_eq_add_one.2 (by
    rw [chars, List.length_cons] at enough
    omega)
  match j with
  | array [] =>
    simp [compactChars, compactItems, outline, outlineItems, Outline.ofRest, skipBlank, isBlank]
  | array (j :: js) =>
    have items := ofRest_compactItems (j :: js) exact (by simp) rest fuel (by
      simp only [compactChars, List.length_cons, List.length_append] at enough
      omega)
    obtain ⟨start, c, cs, here, hc⟩ := compactItems_started exact.1 js rest
    simp only [compactChars, outline, List.cons_append, List.append_assoc, List.nil_append,
      Outline.ofRest, start]
    rw [here] at items ⊢
    split
    next h => exact absurd (List.cons.inj h).1 hc
    next h => cases h
    next => rw [items]
  | object [] =>
    simp [compactChars, compactMembers, outline, outlineMembers, Outline.ofRest, skipBlank, isBlank]
  | object ((k, j) :: ms) =>
    have members := ofRest_compactMembers ((k, j) :: ms) exact (by simp) rest fuel (by
      simp only [compactChars, List.length_cons, List.length_append] at enough
      omega)
    obtain ⟨start, cs, here⟩ := compactMembers_started k j ms rest
    simp only [compactChars, outline, List.cons_append, List.append_assoc, List.nil_append,
      Outline.ofRest, start]
    rw [here] at members ⊢
    rw [← members]
    rfl
  | null | bool _ | int _ | float _ | string _ => exact ofRest_leaf exact rfl hr fuel

theorem ofRest_compactItems (js : List Json) (exact : ExactItems js) (nonempty : js ≠ [])
    (rest : Rest) (fuel : Nat) (enough : 2 * (compactItems js).length < fuel) :
    Items.ofRest fuel (compactItems js ++ ']' :: rest) = outlineItems rest js := by
  obtain ⟨fuel, rfl⟩ : ∃ f, fuel = f + 1 := Nat.exists_eq_add_one.2 (by omega)
  match js with
  | [j] =>
    have item := ofRest_compactChars j exact.1 _ (ends_afterItem [] rest) fuel (by
      simp only [compactItems] at enough
      omega)
    have closing : skipBlank (afterItem [] rest) = ']' :: rest := skipBlank_cons rfl _
    rw [compactItems_append]
    simp only [Items.ofRest, item, stop?_outline, Option.map_some, closing, outlineItems]
  | j :: j' :: js =>
    have item := ofRest_compactChars j exact.1 _ (ends_afterItem (j' :: js) rest) fuel (by
      simp only [compactItems, List.length_append, List.length_cons] at enough
      omega)
    have further := ofRest_compactItems (j' :: js) exact.2 (by simp) rest fuel (by
      simp only [compactItems, List.length_append, List.length_cons] at enough ⊢
      omega)
    obtain ⟨start, c, cs, here, hc⟩ := compactItems_started exact.2.1 js rest
    have comma : skipBlank (afterItem (j' :: js) rest) =
        ',' :: (compactItems (j' :: js) ++ ']' :: rest) := skipBlank_cons rfl _
    rw [compactItems_append]
    simp only [Items.ofRest, item, stop?_outline, Option.map_some, comma, start]
    rw [outlineItems, ← further, here]
    split
    next h => cases h
    next h => exact absurd (List.cons.inj h).1 hc
    next => rfl

theorem ofRest_compactMembers (ms : List (String × Json)) (exact : ExactMembers ms)
    (nonempty : ms ≠ []) (rest : Rest) (fuel : Nat)
    (enough : 2 * (compactMembers ms).length < fuel) :
    Members.ofRest fuel (compactMembers ms ++ '\x7d' :: rest) = outlineMembers rest ms := by
  obtain ⟨fuel, rfl⟩ : ∃ f, fuel = f + 1 := Nat.exists_eq_add_one.2 (by omega)
  match ms with
  | [(k, j)] =>
    have value := ofRest_compactChars j exact.1 _ (ends_afterMember [] rest) fuel (by
      simp only [compactMembers, List.length_append, List.length_cons] at enough
      omega)
    have closing : skipBlank (afterMember [] rest) = '\x7d' :: rest := skipBlank_cons rfl _
    have colon (r : Rest) : skipBlank (':' :: r) = ':' :: r := skipBlank_cons rfl r
    rw [compactMembers_append, stringChars_append]
    simp only [Members.ofRest, Quoted.skip_escapeChars, colon, skipBlank_compactChars exact.1,
      value, stop?_outline, Option.map_some, closing, outlineMembers, stringChars_append]
  | (k, j) :: (k', j') :: ms =>
    have value := ofRest_compactChars j exact.1 _ (ends_afterMember ((k', j') :: ms) rest) fuel (by
      simp only [compactMembers, List.length_append, List.length_cons] at enough
      omega)
    have further := ofRest_compactMembers ((k', j') :: ms) exact.2 (by simp) rest fuel (by
      simp only [compactMembers, List.length_append, List.length_cons] at enough ⊢
      omega)
    have comma : skipBlank (afterMember ((k', j') :: ms) rest) =
        ',' :: (compactMembers ((k', j') :: ms) ++ '\x7d' :: rest) := skipBlank_cons rfl _
    have colon (r : Rest) : skipBlank (':' :: r) = ':' :: r := skipBlank_cons rfl r
    obtain ⟨start, cs, here⟩ := compactMembers_started k' j' ms rest
    rw [compactMembers_append, stringChars_append]
    simp only [Members.ofRest, Quoted.skip_escapeChars, colon, skipBlank_compactChars exact.1,
      value, stop?_outline, Option.map_some, comma, start]
    rw [outlineMembers, ← further, here, stringChars_append]
    rfl

end

/-- The outline of the compact form, taken on its own. -/
theorem ofText_compactChars {j : Json} (exact : j.Exact) :
    Outline.ofText (compactChars j) = j.outline [] := by
  have blank := skipBlank_compactChars exact []
  have read := ofRest_compactChars j exact [] (by simp [Ends])
    (2 * (compactChars j).length + 2) (by omega)
  rw [List.append_nil] at blank read
  rw [Outline.ofText, blank, read]

end FilterQuery.Json
