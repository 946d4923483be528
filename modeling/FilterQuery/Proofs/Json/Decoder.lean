import FilterQuery.Proofs.Json.Outline

/-!
# Decoders that invert an encoding

`Yields d j a` says that a decoder reads the compact form of `j`, wherever it stands, as
`a`. Each decoder of a composite yields what its parts yield.
-/
namespace FilterQuery.Json

/-- The decoder reads the value, wherever it ends, as `a`. -/
def Yields {α : Type} (d : Outline → Except Refusal α) (j : Json) (a : α) : Prop :=
  ∀ rest, Ends rest → d (j.outline rest) = .ok a

/-- The decoder reads what the encoding writes, if it nests no deeper than it may. -/
def Inverts {α : Type} (d : Decoder α) (f : α → Json) : Prop :=
  ∀ a depth, (f a).depth ≤ depth → Yields (d depth) (f a) a

/-! ## Values as they stand -/

theorem read_natural (n : UInt64) {rest : Rest} (hr : Ends rest) :
    Number.read (compactChars (.uint n) ++ rest) = .ok (.natural n) := by
  rw [uint, compactChars_natural, Number.read_toDigits n hr]

mutual

theorem value_outline {j : Json} (exact : j.Exact) {d : Nat} (deep : j.depth ≤ d) :
    Yields (Outline.value d) j j := by
  intro rest hr
  match j with
  | null => rw [outline, Outline.value]
  | bool b => rw [outline, Outline.value]
  | int n =>
    obtain ⟨k, rfl⟩ := exact
    rw [outline, Outline.value, ← uint, read_natural k hr]
    rfl
  | float x => exact exact.elim
  | string s =>
    rw [outline, Outline.value, compactChars, readString_stringChars]
    rfl
  | array js =>
    obtain ⟨d, rfl⟩ := Nat.exists_eq_add_one.2 (Nat.zero_lt_of_lt deep)
    rw [outline, Outline.value, values_outlineItems exact (Nat.le_of_succ_le_succ deep)]
    rfl
  | object ms =>
    obtain ⟨d, rfl⟩ := Nat.exists_eq_add_one.2 (Nat.zero_lt_of_lt deep)
    rw [outline, Outline.value, values_outlineMembers exact (Nat.le_of_succ_le_succ deep)]
    rfl

theorem values_outlineItems {js : List Json} (exact : ExactItems js) {d : Nat}
    (deep : depthItems js ≤ d) (rest : Rest) : (outlineItems rest js).values d = .ok js := by
  match js with
  | [] => rw [outlineItems, Items.values]
  | j :: js =>
    rw [depthItems, Nat.max_le] at deep
    rw [outlineItems, Items.values, value_outline exact.1 deep.1 _ (ends_afterItem js rest),
      values_outlineItems exact.2 deep.2]
    rfl

theorem values_outlineMembers {ms : List (String × Json)} (exact : ExactMembers ms) {d : Nat}
    (deep : depthMembers ms ≤ d) (rest : Rest) : (outlineMembers rest ms).values d = .ok ms := by
  match ms with
  | [] => rw [outlineMembers, Members.values]
  | (k, j) :: ms =>
    rw [depthMembers, Nat.max_le] at deep
    rw [outlineMembers, Members.values, readString_stringChars,
      value_outline exact.1 deep.1 _ (ends_afterMember ms rest),
      values_outlineMembers exact.2 deep.2]
    rfl

end

/-! ## Composites -/

section
variable {α : Type} {j : Json} {a : α} {depth : Nat}

theorem Yields.bind {β : Type} {d : Outline → Except Refusal α} {f : α → Except Refusal β} {b : β}
    (h : Yields d j a) (hf : f a = .ok b) : Yields (fun o => d o >>= f) j b := by
  intro rest hr
  simp only [h rest hr]
  exact hf

theorem yields_string (s : String) : Yields (Decoder.string depth) (.string s) s :=
  fun rest _ => by rw [outline, compactChars, Decoder.string, readString_stringChars]

theorem yields_natural (n : UInt64) : Yields (Decoder.natural depth) (.uint n) n := by
  intro rest hr
  have read := read_natural n hr
  rw [uint] at read ⊢
  rw [outline, Decoder.natural, read]
  rfl

theorem yields_variant {ofName : String → Except String α} {s : String} (h : ofName s = .ok a) :
    Yields (Decoder.variant ofName depth) (.string s) a := by
  intro rest _
  have read : readString (stringChars s ++ rest) = pure s := readString_stringChars s rest
  rw [outline, compactChars, Decoder.variant]
  simp only [read, pure_bind, h]
  rfl

theorem yields_optional {d : Decoder α} (h : Yields (d depth) j a) (present : j ≠ .null) :
    Yields (Decoder.optional d depth) j (some a) := by
  intro rest hr
  have read := h rest hr
  cases j with
  | null => exact absurd rfl present
  | _ =>
    simp only [outline] at read ⊢
    simp only [Decoder.optional, read]
    rfl

theorem items_outlineItems {d : Outline → Except Refusal α} {f : α → Json} {xs : List α}
    (h : ∀ x ∈ xs, Yields d (f x) x) (rest : Rest) :
    Decoder.items d (outlineItems rest (xs.map f)) = .ok xs := by
  induction xs with
  | nil => rfl
  | cons x xs ih =>
    rw [List.map_cons, outlineItems, Decoder.items, h x (by simp) _ (ends_afterItem _ rest),
      ih fun y hy => h y (by simp [hy])]
    rfl

theorem yields_list {d : Decoder α} {f : α → Json} {xs : List α}
    (h : ∀ x ∈ xs, Yields (d depth) (f x) x) :
    Yields (Decoder.list d (depth + 1)) (.array (xs.map f)) xs := by
  intro rest _
  rw [outline]
  exact items_outlineItems h rest

theorem members_outlineMembers {d : Outline → Except Refusal α} {f : α → Json}
    {xs : List (String × α)} (h : ∀ x ∈ xs, Yields d (f x.2) x.2) (rest : Rest) :
    Decoder.members d (outlineMembers rest (xs.map fun x => (x.1, f x.2))) = .ok xs := by
  induction xs with
  | nil => rfl
  | cons x xs ih =>
    rw [List.map_cons, outlineMembers, Decoder.members, readString_stringChars,
      h x (by simp) _ (ends_afterMember _ rest), ih fun y hy => h y (by simp [hy])]
    rfl

theorem yields_entries {d : Decoder α} {f : α → Json} {xs : List (String × α)}
    (h : ∀ x ∈ xs, Yields (d depth) (f x.2) x.2) :
    Yields (Decoder.entries d (depth + 1)) (.object (xs.map fun x => (x.1, f x.2))) xs := by
  intro rest _
  rw [outline]
  exact members_outlineMembers h rest

end

/-! ## Records -/

namespace Record

variable {σ α : Type} {r : Record σ α}

/-- The members take the draft from one state to another. -/
inductive Fills (r : Record σ α) : σ → List (String × Json) → σ → Prop
  | nil {acc : σ} : Fills r acc [] acc
  | cons {acc acc' acc'' : σ} {k : String} {j : Json} {ms : List (String × Json)}
      (field : Yields (r.set acc k) j acc') (next : Fills r acc' ms acc'') :
      Fills r acc ((k, j) :: ms) acc''

variable {acc acc' acc'' : σ} {ms ms' : List (String × Json)} {k : String}

theorem Fills.append (h : Fills r acc ms acc') (h' : Fills r acc' ms' acc'') :
    Fills r acc (ms ++ ms') acc'' := by
  induction h with
  | nil => exact h'
  | cons field _ ih => exact .cons field (ih h')

theorem ofMembers_outlineMembers (fills : Fills r acc ms acc') {seen : List String}
    (known : ∀ m ∈ ms, m.1 ∈ r.fields) (distinct : (ms.map (·.1)).Nodup)
    (fresh : ∀ m ∈ ms, m.1 ∉ seen) {a : α} (finished : r.finish acc' = .ok a) (rest : Rest) :
    r.ofMembers acc seen (outlineMembers rest ms) = .ok a := by
  induction fills generalizing seen with
  | nil => rw [outlineMembers, ofMembers, finished]
  | @cons acc acc₁ acc₂ k j ms field _ ih =>
    have key : r.checkKey seen (stringChars k ++ ':' :: (compactChars j ++ afterMember ms rest))
        (':' :: (compactChars j ++ afterMember ms rest)) = .ok (k, true) := by
      rw [checkKey, readString_stringChars]
      change (if k ∈ r.fields then _ else _) = _
      rw [if_pos (known (k, j) (by simp)), if_neg (fresh (k, j) (by simp))]
      rfl
    have value := field _ (ends_afterMember ms rest)
    rw [List.map_cons, List.nodup_cons] at distinct
    have next : r.ofMembers acc₁ (k :: seen) (outlineMembers rest ms) = .ok a := by
      refine ih (fun m hm => known m (by simp [hm])) distinct.2 (fun m hm => ?_) finished
      have new : m.1 ≠ k := fun same => distinct.1 (List.mem_map.2 ⟨m, hm, same⟩)
      simpa [new] using fresh m (by simp [hm])
    rw [outlineMembers, ofMembers, key]
    change (Decoder.placed _ _ _ >>= _) = _
    rw [value]
    exact next

/-- A record is read from the members that fill it, in the order of its fields. -/
theorem yields_decoder {r : Nat → Record σ α} {depth : Nat} {a : α}
    (fills : Fills (r depth) (r depth).empty ms acc')
    (keys : List.Sublist (ms.map (·.1)) (r depth).fields) (distinct : (r depth).fields.Nodup)
    (finished : (r depth).finish acc' = .ok a) :
    Yields (decoder r (depth + 1)) (.object ms) a := by
  intro rest _
  rw [outline]
  exact ofMembers_outlineMembers fills
    (fun m hm => keys.subset (List.mem_map_of_mem hm)) (distinct.sublist keys) (by simp) finished
    rest

end Record

/-! ## Texts -/

theorem decode_compact {α : Type} {d : Decoder α} {j : Json} {a : α} (exact : j.Exact)
    (yields : Yields (d depthLimit) j a) : decode d (compact j) = .ok a := by
  have read := yields [] (by simp [Ends])
  rw [decode, decodeChars, compact, String.toList_ofList, ofText_compactChars exact]
  simp only [read, stop?_outline]
  rfl

end FilterQuery.Json
