import FilterQuery.ParseTree.Decoder
import FilterQuery.Proofs.Acceptance

/-!
# What decoders accept

For each decoder, what an outline must look like for the decoder to read it, and what is
then read. A record tells, field by field, which value stands in it: no field twice, none
of another name where these are refused, and the default where there is none.
-/
namespace FilterQuery

namespace Json

/-! ## Parts of outlines -/

/-- The items, if the array closes. -/
def Items.list? : Items → Option (List Outline)
  | .close _ => some []
  | .cons item next => next.list?.map (item :: ·)
  | .cut _ => none

/-- The members with their keys, if the object closes and the keys can be read. -/
def Members.list? : Members → Option (List (String × Outline))
  | .close _ => some []
  | .cons keyStart _ value next =>
    match readString keyStart with
    | .ok k => next.list?.map ((k, value) :: ·)
    | .error _ => none
  | _ => none

theorem Items.exists_stop : ∀ {items : Items} {vs : List Outline}, items.list? = some vs →
    ∃ stop, items.stop? = some stop
  | .close stop, _, _ => ⟨stop, rfl⟩
  | .cons _ next, _, h => by
    obtain ⟨vs, further, -⟩ := Option.map_eq_some_iff.1 h
    have ends := exists_stop further
    exact ends

theorem Members.exists_stop : ∀ {members : Members} {es : List (String × Outline)},
    members.list? = some es → ∃ stop, members.stop? = some stop
  | .close stop, _, _ => ⟨stop, rfl⟩
  | .cons keyStart _ _ next, _, h => by
    rw [Members.list?] at h
    split at h
    next =>
      obtain ⟨es, further, -⟩ := Option.map_eq_some_iff.1 h
      have ends := exists_stop further
      exact ends
    next => cases h

/-! ## What a value tells -/

section
variable {α β : Type}

def IsNull (o : Outline) : Prop := ∃ start stop, o = .null start stop

/-- The value is a string of that text. -/
def IsString (o : Outline) (s : String) : Prop :=
  ∃ start stop, o = .string start stop ∧ readString start = .ok s

/-- The value is a natural number. -/
def IsNatural (o : Outline) (n : UInt64) : Prop :=
  ∃ start stop k, o = .number start stop ∧ Number.read start = .ok k ∧ k.toJson = .int n.toNat

/-- The value is a name, or an object with the name for its only key and `null` for its
value. -/
def IsName (o : Outline) (s : String) : Prop :=
  IsString o s ∨ ∃ start keyStart keyStop from' stop next r,
    o = .object start (.cons keyStart keyStop (.null from' stop) next) ∧
      readString keyStart = .ok s ∧ skipBlank stop = '\x7d' :: r

/-- The value is an array of those items. -/
def IsArray (o : Outline) (vs : List Outline) : Prop :=
  ∃ start items, o = .array start items ∧ items.list? = some vs

/-- The value tells something. -/
def Found (R : Outline → β → Prop) (o : Outline) (x : Option β) : Prop :=
  ∃ b, x = some b ∧ R o b

/-- The value is `null` and tells nothing, or it tells something. -/
def Nullable (R : Outline → β → Prop) (o : Outline) (x : Option β) : Prop :=
  IsNull o ∧ x = none ∨ Found R o x

/-- The value is an array whose items tell those things, one each, in order. -/
def Listed (R : Outline → β → Prop) (o : Outline) (xs : List β) : Prop :=
  ∃ vs, IsArray o vs ∧ List.Forall₂ R vs xs

/-- The value is an object whose members tell those things under those names, in order. -/
def Mapped (R : Outline → β → Prop) (o : Outline) (xs : List (String × β)) : Prop :=
  ∃ start members es, o = .object start members ∧ members.list? = some es ∧
    List.Forall₂ (fun e x => e.1 = x.1 ∧ R e.2 x.2) es xs

/-- The field has a value and that tells `b`, or it is absent and `b` is the default. -/
def Holds (R : Outline → β → Prop) (default : Option β) (es : List (String × Outline))
    (name : String) (b : β) : Prop :=
  match es.lookup name with
  | some v => R v b
  | none => default = some b

end

section
variable {β : Type} {R : Outline → β → Prop} {default : Option β}
  {es : List (String × Outline)} {name : String} {b : β}

theorem holds_cons_self (v : Outline) : Holds R default ((name, v) :: es) name b ↔ R v b := by
  rw [Holds, List.lookup_cons_self]

theorem holds_cons_of_ne {k : String} (h : k ≠ name) (v : Outline) :
    Holds R default ((k, v) :: es) name b ↔ Holds R default es name b := by
  have other : (name == k) = false := by simpa using h.symm
  simp only [Holds, List.lookup_cons, other]

/-- A field that does not occur has its default. -/
theorem Holds.absent (h : Holds R default es name b) (absent : (es.map (·.1)).count name = 0) :
    default = some b := by
  induction es with
  | nil => exact h
  | cons e es ih =>
    rw [List.map_cons, List.count_cons] at absent
    have differs : e.1 ≠ name := by
      intro same
      simp [same] at absent
    exact ih ((holds_cons_of_ne differs e.2).1 h) (by omega)

/-- A field without a default must be there. -/
theorem Holds.required (h : Holds (Found R) (some none) es name (some b)) :
    Holds R none es name b := by
  unfold Holds at h ⊢
  split at h
  next v found =>
    obtain ⟨_, same, tells⟩ := h
    cases same
    exact tells
  next => cases h

/-- A list field holds the items of an array, or none. -/
theorem Holds.listed {bs : List β} (h : Holds (Listed R) (some []) es name bs) :
    ∃ vs, Holds IsArray (some []) es name vs ∧ List.Forall₂ R vs bs := by
  unfold Holds at h ⊢
  split at h
  next v found =>
    obtain ⟨vs, array, each⟩ := h
    exact ⟨vs, by simpa [found] using array, each⟩
  next =>
    cases h
    exact ⟨[], by simp, .nil⟩

theorem sublist_map_fst_zip {α β : Type} : ∀ (xs : List α) (ys : List β),
    ((xs.zip ys).map (·.1)).Sublist xs
  | [], _ => .slnil
  | _ :: _, [] => List.nil_sublist _
  | _ :: xs, _ :: ys => (sublist_map_fst_zip xs ys).cons_cons _

end

/-! ## What decoders read -/

section
variable {α : Type} {depth : Nat} {o : Outline}

@[simp] theorem refuseType_ne_ok (expected : String) (o : Outline) (a : α) :
    refuseType expected o ≠ .ok a := by
  cases o with
  | number start stop =>
    intro h
    rw [refuseType, bind_eq_ok] at h
    obtain ⟨_, -, h⟩ := h
    cases h
  | string start stop =>
    intro h
    rw [refuseType, bind_eq_ok] at h
    obtain ⟨_, -, h⟩ := h
    cases h
  | _ => simp [refuseType, refuse, flawed]

theorem placed_eq_ok {after : Rest → Place} {x : Except Refusal α} {a : α}
    (h : Decoder.placed after o x = .ok a) : x = .ok a := mapError_eq_ok.1 h

theorem ofFlawed_eq_ok {x : Except Flaw α} {a : α} (h : ofFlawed x = .ok a) : x = .ok a :=
  mapError_eq_ok.1 h

namespace Decoder

theorem isString_of_string {s : String} (h : string depth o = .ok s) : IsString o s := by
  unfold string at h
  split at h
  next start stop => exact ⟨start, stop, rfl, h⟩
  next => exact absurd h (refuseType_ne_ok _ _ _)

theorem isNatural_of_natural {n : UInt64} (h : natural depth o = .ok n) : IsNatural o n := by
  unfold natural at h
  split at h
  next start stop =>
    obtain ⟨k, read, h⟩ := bind_eq_ok.1 h
    split at h
    next m =>
      cases h
      exact ⟨start, stop, _, rfl, ofFlawed_eq_ok read, rfl⟩
    next => cases h
    next => cases h
  next => exact absurd h (refuseType_ne_ok _ _ _)

theorem nullable_of_optional {d : Decoder α} {R : Outline → α → Prop} {x : Option α}
    (reads : ∀ {o a}, d depth o = .ok a → R o a) (h : optional d depth o = .ok x) :
    Nullable R o x := by
  unfold optional at h
  split at h
  next start stop =>
    cases h
    exact .inl ⟨⟨start, stop, rfl⟩, rfl⟩
  next => cases h
  next =>
    obtain ⟨a, read, rfl⟩ := Literal.exists_of_map_eq_ok h
    exact .inr ⟨a, rfl, reads read⟩

theorem listed_of_items {d : Outline → Except Refusal α} {R : Outline → α → Prop}
    (reads : ∀ {o a}, d o = .ok a → R o a) : ∀ {parts : Items} {xs : List α},
    items d parts = .ok xs → ∃ vs, parts.list? = some vs ∧ List.Forall₂ R vs xs
  | .close _, _, h => by
    cases h
    exact ⟨[], rfl, .nil⟩
  | .cons item next, _, h => by
    obtain ⟨a, first, h⟩ := bind_eq_ok.1 h
    obtain ⟨as, further, h⟩ := bind_eq_ok.1 h
    cases h
    obtain ⟨vs, list, each⟩ := listed_of_items reads further
    exact ⟨item :: vs, by simp [Items.list?, list], .cons (reads (placed_eq_ok first)) each⟩

theorem listed_of_list {d : Decoder α} {R : Outline → α → Prop} {xs : List α}
    (reads : ∀ {depth o a}, d depth o = .ok a → R o a) (h : list d depth o = .ok xs) :
    Listed R o xs := by
  unfold list at h
  split at h
  next start parts =>
    split at h
    next => cases h
    next depth =>
      obtain ⟨vs, items, each⟩ := listed_of_items reads h
      exact ⟨vs, ⟨start, parts, rfl, items⟩, each⟩
  next => exact absurd h (refuseType_ne_ok _ _ _)

theorem mapped_of_members {d : Outline → Except Refusal α} {R : Outline → α → Prop}
    (reads : ∀ {o a}, d o = .ok a → R o a) : ∀ {parts : Members} {xs : List (String × α)},
    members d parts = .ok xs →
      ∃ es, parts.list? = some es ∧ List.Forall₂ (fun e x => e.1 = x.1 ∧ R e.2 x.2) es xs
  | .close _, _, h => by
    cases h
    exact ⟨[], rfl, .nil⟩
  | .cons keyStart _ value next, _, h => by
    rw [members, bind_eq_ok] at h
    obtain ⟨k, key, h⟩ := h
    obtain ⟨a, first, h⟩ := bind_eq_ok.1 h
    obtain ⟨xs, further, h⟩ := bind_eq_ok.1 h
    cases h
    obtain ⟨es, list, each⟩ := mapped_of_members reads further
    exact ⟨(k, value) :: es, by simp [Members.list?, key, list],
      .cons ⟨rfl, reads (placed_eq_ok first)⟩ each⟩
  | .noColon _ _, _, h => by
    rw [members, bind_eq_ok] at h
    obtain ⟨_, -, h⟩ := h
    cases h
  | .brokenKey _, _, h | .notKey _, _, h | .cut _, _, h => by cases h

theorem mapped_of_entries {d : Decoder α} {R : Outline → α → Prop}
    {xs : List (String × α)} (reads : ∀ {depth o a}, d depth o = .ok a → R o a)
    (h : entries d depth o = .ok xs) : Mapped R o xs := by
  unfold entries at h
  split at h
  next start parts =>
    split at h
    next => cases h
    next depth =>
      obtain ⟨es, list, each⟩ := mapped_of_members reads h
      exact ⟨start, parts, es, rfl, list, each⟩
  next => exact absurd h (refuseType_ne_ok _ _ _)

theorem closeVariant_eq_ok {a b : α} {stop : Rest} (h : closeVariant a stop = .ok b) :
    a = b ∧ ∃ r, skipBlank stop = '\x7d' :: r := by
  unfold closeVariant at h
  split at h
  next r close => exact ⟨Except.ok.inj h, r, close⟩
  next => cases h
  next => cases h

theorem isName_of_variant {ofName : String → Except String α} {a : α}
    (h : variant ofName depth o = .ok a) : ∃ s, IsName o s ∧ ofName s = .ok a := by
  unfold variant at h
  dsimp only at h
  split at h
  next start stop =>
    obtain ⟨s, read, h⟩ := bind_eq_ok.1 h
    split at h
    next b found =>
      cases h
      exact ⟨s, .inl ⟨start, stop, rfl, read⟩, found⟩
    next => cases h
  next start parts =>
    split at h
    next => cases h
    next =>
      split at h
      next keyStart keyStop value next =>
        obtain ⟨b, key, h⟩ := bind_eq_ok.1 h
        obtain ⟨s, read, key⟩ := bind_eq_ok.1 key
        split at key
        next b' found =>
          cases key
          cases value with
          | null from' stop =>
            obtain ⟨rfl, r, close⟩ := closeVariant_eq_ok h
            exact ⟨s, .inr ⟨start, keyStart, keyStop, from', stop, next, r, rfl, read, close⟩,
              found⟩
          | _ => exact absurd h (refuseType_ne_ok _ _ _)
        next => cases key
      next =>
        obtain ⟨_, -, h⟩ := bind_eq_ok.1 h
        cases h
      next => cases h
      next => exact absurd h (refuseType_ne_ok _ _ _)
      next => cases h
      next => cases h
  all_goals cases h

end Decoder

end

end Json

/-! ## Records -/

open Json

/-- A record stands as an object with members under the names of fields, none twice and
none under another name where these are refused; or as an array of the fields in order,
which may end early. -/
inductive RecordForm.Lists {σ α : Type} (f : RecordForm σ α) :
    Outline → List (String × Outline) → Prop
  | object {start : Rest} {members : Members} {es : List (String × Outline)}
      (read : members.list? = some es) (known : f.closed → ∀ e ∈ es, e.1 ∈ f.fields)
      (once : ∀ name ∈ f.fields, (es.map (·.1)).count name ≤ 1) :
      f.Lists (.object start members) es
  | array {start : Rest} {items : Items} {vs : List Outline} (read : items.list? = some vs)
      (fits : vs.length ≤ f.fields.length) : f.Lists (.array start items) (f.fields.zip vs)

/-- No field stands twice, whichever way the record is written. -/
theorem RecordForm.Lists.once {σ α : Type} {f : RecordForm σ α} {o : Outline}
    {es : List (String × Outline)} (h : f.Lists o es) (distinct : f.fields.Nodup)
    {name : String} (hname : name ∈ f.fields) : (es.map (·.1)).count name ≤ 1 := by
  cases h with
  | object _ _ once => exact once name hname
  | @array _ _ vs _ _ =>
    have few := (Json.sublist_map_fst_zip f.fields vs).count_le name
    have one := List.nodup_iff_count.1 distinct name
    omega

theorem RecordForm.Lists.exists_stop {σ α : Type} {f : RecordForm σ α} {o : Outline}
    {es : List (String × Outline)} (h : f.Lists o es) : ∃ stop, o.stop? = some stop := by
  cases h with
  | object read => exact Members.exists_stop read
  | array read => exact Items.exists_stop read

namespace Json.Record

variable {σ α β : Type} {r : Record σ α} {acc acc' acc'' : σ} {es : List (String × Outline)}

/-- The fields take the draft from one state to another. -/
inductive Sets (r : Record σ α) : σ → List (String × Outline) → σ → Prop
  | nil {acc : σ} : Sets r acc [] acc
  | field {acc acc' acc'' : σ} {k : String} {v : Outline} {es : List (String × Outline)}
      (known : k ∈ r.fields) (set : r.set acc k v = .ok acc') (next : Sets r acc' es acc'') :
      Sets r acc ((k, v) :: es) acc''
  | skip {acc acc' : σ} {k : String} {v : Outline} {es : List (String × Outline)}
      (unknown : k ∉ r.fields) (next : Sets r acc es acc') : Sets r acc ((k, v) :: es) acc'

/-- What a draft holds of a field when only that field sets it. -/
theorem Sets.holds {p : σ → β} {R : Outline → β → Prop} {name : String}
    (hname : name ∈ r.fields)
    (own : ∀ {acc v acc'}, r.set acc name v = .ok acc' → R v (p acc'))
    (others : ∀ {acc k v acc'}, k ∈ r.fields → k ≠ name → r.set acc k v = .ok acc' →
      p acc' = p acc)
    (sets : r.Sets acc es acc') (once : (es.map (·.1)).count name ≤ 1) :
    Holds R (some (p acc)) es name (p acc') := by
  induction sets with
  | nil => rfl
  | @field acc acc₁ acc₂ k v es known set next ih =>
    rw [List.map_cons, List.count_cons] at once
    by_cases same : k = name
    · subst same
      have later : (es.map (·.1)).count k = 0 := by simpa using once
      have kept := Option.some.inj ((ih (by omega)).absent later)
      rw [holds_cons_self, ← kept]
      exact own set
    · have further : (es.map (·.1)).count name ≤ 1 := by simpa [same] using once
      rw [holds_cons_of_ne same, ← others known same set]
      exact ih further
  | @skip acc acc₁ k v es unknown next ih =>
    have differs : k ≠ name := fun same => unknown (same ▸ hname)
    rw [holds_cons_of_ne differs]
    exact ih (by simpa [differs] using once)

/-- A field that is read by a decoder and set holds what the decoder reads. -/
theorem Sets.holds_read {γ : Type} {p : σ → β} {R : Outline → β → Prop} {name : String}
    {d : Outline → Except Refusal γ} {put : σ → γ → σ} (hname : name ∈ r.fields)
    (own : ∀ acc v, r.set acc name v = do return put acc (← d v))
    (reads : ∀ {v x} acc, d v = .ok x → R v (p (put acc x)))
    (others : ∀ {acc k v acc'}, k ∈ r.fields → k ≠ name → r.set acc k v = .ok acc' →
      p acc' = p acc)
    (sets : r.Sets acc es acc')
    (once : ∀ {name : String}, name ∈ r.fields → (es.map (·.1)).count name ≤ 1) :
    Holds R (some (p acc)) es name (p acc') := by
  refine sets.holds hname ?_ others (once hname)
  intro acc v acc' set
  rw [own, bind_eq_ok] at set
  obtain ⟨x, read, same⟩ := set
  cases same
  exact reads acc read

theorem checkKey_eq_ok {seen : List String} {keyStart keyStop : Rest} {k : String} {known : Bool}
    (h : r.checkKey seen keyStart keyStop = .ok (k, known)) :
    readString keyStart = .ok k ∧
      (known = true ∧ k ∈ r.fields ∧ k ∉ seen ∨
        known = false ∧ k ∉ r.fields ∧ r.closed = false) := by
  obtain ⟨k', read, h⟩ := bind_eq_ok.1 h
  split at h
  next field =>
    split at h
    next => cases h
    next fresh =>
      cases h
      exact ⟨read, .inl ⟨rfl, field, fresh⟩⟩
  next other =>
    split at h
    next => cases h
    next opened =>
      cases h
      exact ⟨read, .inr ⟨rfl, other, by simpa using opened⟩⟩

theorem ofMembers_eq_ok : ∀ {members : Members} {acc : σ} {seen : List String} {a : α},
    r.ofMembers acc seen members = .ok a →
      ∃ es acc', members.list? = some es ∧ (r.closed → ∀ e ∈ es, e.1 ∈ r.fields) ∧
        (∀ name ∈ r.fields, (es.map (·.1)).count name ≤ if name ∈ seen then 0 else 1) ∧
        r.Sets acc es acc' ∧ r.finish acc' = .ok a
  | .close stop, acc, seen, a, h => by
    unfold ofMembers at h
    split at h
    next b finished =>
      cases h
      exact ⟨[], acc, rfl, by simp, by simp, .nil, finished⟩
    next => cases h
  | .cons keyStart keyStop value next, acc, seen, a, h => by
    rw [ofMembers, bind_eq_ok] at h
    obtain ⟨⟨k, known⟩, key, h⟩ := h
    obtain ⟨read, ⟨rfl, field, fresh⟩ | ⟨rfl, other, opened⟩⟩ := checkKey_eq_ok key
    · obtain ⟨acc₁, set, h⟩ := bind_eq_ok.1 h
      obtain ⟨es, acc₂, list, closed, once, sets, finished⟩ := ofMembers_eq_ok h
      refine ⟨(k, value) :: es, acc₂, by simp [Members.list?, read, list], ?_, ?_,
        .field field (placed_eq_ok set) sets, finished⟩
      · intro hc e he
        rcases List.mem_cons.1 he with rfl | he
        · exact field
        · exact closed hc e he
      · intro name hname
        have further := once name hname
        rw [List.map_cons, List.count_cons]
        by_cases same : k = name
        · subst same
          simp [fresh] at further ⊢
          exact further
        · have seen' : name ∈ k :: seen ↔ name ∈ seen := by simp [Ne.symm same]
          simpa [same, seen'] using further
    · simp only [Bool.false_eq_true, if_false] at h
      split at h
      next => cases h
      next =>
        obtain ⟨es, acc₁, list, closed, once, sets, finished⟩ := ofMembers_eq_ok h
        refine ⟨(k, value) :: es, acc₁, by simp [Members.list?, read, list], by simp [opened],
          ?_, .skip other sets, finished⟩
        intro name hname
        have differs : k ≠ name := fun same => other (same ▸ hname)
        simpa [differs] using once name hname
  | .noColon keyStart keyStop, acc, seen, a, h => by
    rw [ofMembers, bind_eq_ok] at h
    obtain ⟨_, -, h⟩ := h
    cases h
  | .brokenKey _, _, _, _, h | .notKey _, _, _, _, h | .cut _, _, _, _, h => by cases h

theorem closeItems_eq_ok {items : Items} {a b : α} (h : closeItems a items = .ok b) :
    a = b ∧ ∃ stop, items = .close stop := by
  unfold closeItems at h
  split at h
  next stop => exact ⟨Except.ok.inj h, stop, rfl⟩
  all_goals cases h

theorem ofItems_eq_ok : ∀ {names : List String} {items : Items} {acc : σ} {a : α},
    (∀ name ∈ names, name ∈ r.fields) → r.ofItems acc names items = .ok a →
      ∃ vs acc', items.list? = some vs ∧ vs.length ≤ names.length ∧
        r.Sets acc (names.zip vs) acc' ∧ r.finish acc' = .ok a
  | [], items, acc, a, _, h => by
    rw [ofItems] at h
    split at h
    next b finished =>
      obtain ⟨rfl, stop, rfl⟩ := closeItems_eq_ok h
      exact ⟨[], acc, rfl, by simp, .nil, finished⟩
    next => cases h
  | name :: names, .close stop, acc, a, _, h => by
    rw [ofItems] at h
    split at h
    next b finished =>
      cases h
      exact ⟨[], acc, rfl, by simp, .nil, finished⟩
    next => cases h
  | name :: names, .cons item next, acc, a, known, h => by
    rw [ofItems, bind_eq_ok] at h
    obtain ⟨acc₁, set, h⟩ := h
    rw [List.forall_mem_cons] at known
    obtain ⟨vs, acc₂, list, fits, sets, finished⟩ := ofItems_eq_ok known.2 h
    exact ⟨item :: vs, acc₂, by simp [Items.list?, list], by simpa using fits,
      .field known.1 (placed_eq_ok set) sets, finished⟩
  | _ :: _, .cut _, _, _, _, h => by cases h

/-- A record is read field by field out of an object or an array, each field once. -/
theorem decoder_eq_ok {r : Nat → Record σ α} {depth : Nat} {o : Outline} {a : α}
    (distinct : ∀ depth, (r depth).fields.Nodup) (h : decoder r depth o = .ok a) :
    ∃ depth es acc, (r depth).Lists o es ∧
      (∀ {name}, name ∈ (r depth).fields → (es.map (·.1)).count name ≤ 1) ∧
      (r depth).Sets (r depth).empty es acc ∧ (r depth).finish acc = .ok a := by
  unfold decoder at h
  split at h
  next start members =>
    split at h
    next => cases h
    next depth =>
      obtain ⟨es, acc, list, closed, once, sets, finished⟩ := ofMembers_eq_ok h
      have lists : (r depth).Lists (.object start members) es :=
        .object list closed (by simpa using once)
      exact ⟨depth, es, acc, lists, lists.once (distinct depth), sets, finished⟩
  next start items =>
    split at h
    next => cases h
    next depth =>
      obtain ⟨vs, acc, list, fits, sets, finished⟩ := ofItems_eq_ok (fun _ h => h) h
      have lists : (r depth).Lists (.array start items) ((r depth).fields.zip vs) :=
        .array list fits
      exact ⟨depth, _, acc, lists, lists.once (distinct depth), sets, finished⟩
  next => exact absurd h (refuseType_ne_ok _ _ _)

end Json.Record

/-! ## Values as they stand -/

namespace Json

/-- The outline reads as the value. -/
def Reads (o : Outline) (j : Json) : Prop := ∃ depth, o.value depth = .ok j

/-- A member reads as a member of the same name. -/
def ReadsMember (e : String × Outline) (m : String × Json) : Prop :=
  e.1 = m.1 ∧ Reads e.2 m.2

theorem forall₂_of_itemsValues {depth : Nat} : ∀ {items : Items} {js : List Json},
    items.values depth = .ok js → ∃ vs, items.list? = some vs ∧ List.Forall₂ Reads vs js
  | .close _, _, h => by
    cases h
    exact ⟨[], rfl, .nil⟩
  | .cons item next, _, h => by
    rw [Items.values, bind_eq_ok] at h
    obtain ⟨j, first, h⟩ := h
    obtain ⟨js, further, h⟩ := bind_eq_ok.1 h
    cases h
    obtain ⟨vs, list, each⟩ := forall₂_of_itemsValues further
    exact ⟨item :: vs, by simp [Items.list?, list], .cons ⟨depth, first⟩ each⟩

theorem forall₂_of_membersValues {depth : Nat} :
    ∀ {members : Members} {ms : List (String × Json)}, members.values depth = .ok ms →
      ∃ es, members.list? = some es ∧ List.Forall₂ ReadsMember es ms
  | .close _, _, h => by
    cases h
    exact ⟨[], rfl, .nil⟩
  | .cons keyStart _ value next, _, h => by
    rw [Members.values, bind_eq_ok] at h
    obtain ⟨k, key, h⟩ := h
    obtain ⟨j, first, h⟩ := bind_eq_ok.1 h
    obtain ⟨ms, further, h⟩ := bind_eq_ok.1 h
    cases h
    obtain ⟨es, list, each⟩ := forall₂_of_membersValues further
    exact ⟨(k, value) :: es, by simp [Members.list?, key, list], .cons ⟨rfl, depth, first⟩ each⟩
  | .noColon _ _, _, h => by
    rw [Members.values, bind_eq_ok] at h
    obtain ⟨_, -, h⟩ := h
    cases h
  | .brokenKey _, _, h | .notKey _, _, h | .cut _, _, h => by cases h

/-- What reads as a value has its form and its parts. -/
theorem Reads.form {o : Outline} {j : Json} (h : Reads o j) :
    match j with
    | .null => IsNull o
    | .bool _ | .float _ => True
    | .int n => ∃ start stop k, o = .number start stop ∧ Number.read start = .ok k ∧
        k.toJson = .int n
    | .string s => IsString o s
    | .array js => ∃ vs, IsArray o vs ∧ List.Forall₂ Reads vs js
    | .object ms => ∃ start members es, o = .object start members ∧ members.list? = some es ∧
        List.Forall₂ ReadsMember es ms := by
  obtain ⟨depth, h⟩ := h
  cases o with
  | null start stop =>
    cases h
    exact ⟨start, stop, rfl⟩
  | bool b start stop =>
    cases h
    trivial
  | number start stop =>
    obtain ⟨k, read, same⟩ := Literal.exists_of_map_eq_ok h
    subst same
    cases k with
    | natural n => exact ⟨start, stop, _, rfl, ofFlawed_eq_ok read, rfl⟩
    | negative n => exact ⟨start, stop, _, rfl, ofFlawed_eq_ok read, rfl⟩
    | float x => trivial
  | string start stop =>
    obtain ⟨s, read, rfl⟩ := Literal.exists_of_map_eq_ok h
    exact ⟨start, stop, rfl, read⟩
  | array start items =>
    cases depth with
    | zero => cases h
    | succ depth =>
      obtain ⟨js, values, rfl⟩ := Literal.exists_of_map_eq_ok h
      obtain ⟨vs, list, each⟩ := forall₂_of_itemsValues values
      exact ⟨vs, ⟨start, items, rfl, list⟩, each⟩
  | object start members =>
    cases depth with
    | zero => cases h
    | succ depth =>
      obtain ⟨ms, values, rfl⟩ := Literal.exists_of_map_eq_ok h
      obtain ⟨es, list, each⟩ := forall₂_of_membersValues values
      exact ⟨start, members, es, rfl, list, each⟩
  | broken start => cases h

section
variable {β : Type} {R : Outline → β → Prop} {default : Option β}
  {es : List (String × Outline)} {ms : List (String × Json)} {name : String} {b : β}

theorem count_eq_length_named (h : List.Forall₂ ReadsMember es ms) :
    (es.map (·.1)).count name = ((object ms).named name).length := by
  induction h with
  | nil => rfl
  | @cons e m es ms same _ ih =>
    rw [List.map_cons, List.count_cons, ih, same.1]
    by_cases own : m.1 = name <;> simp [named, own]

/-- The one member of a name that reads as a value holds what the value tells. -/
theorem holds_of_named {j : Json} (h : List.Forall₂ ReadsMember es ms)
    (found : (object ms).named name = [j]) (tells : ∀ {v}, Reads v j → R v b) :
    Holds R default es name b := by
  induction h with
  | nil => cases found
  | @cons e m es ms same each ih =>
    obtain ⟨k, v⟩ := e
    obtain ⟨k', j'⟩ := m
    obtain ⟨rfl, reads⟩ := same
    by_cases own : k = name
    · subst own
      obtain rfl : j' = j := by
        simp [named] at found
        exact found.1
      exact (holds_cons_self v).2 (tells reads)
    · rw [holds_cons_of_ne own]
      exact ih (by simpa [named, own] using found)

theorem holds_of_named_nil (h : List.Forall₂ ReadsMember es ms)
    (absent : (object ms).named name = []) : Holds R (some b) es name b := by
  induction h with
  | nil => rfl
  | @cons e m es ms same each ih =>
    obtain ⟨k, v⟩ := e
    obtain ⟨k', j'⟩ := m
    obtain ⟨rfl, -⟩ := same
    have differs : k ≠ name := by
      rintro rfl
      simp [named] at absent
    rw [holds_cons_of_ne differs]
    exact ih (by simpa [named, differs] using absent)

end

end Json

end FilterQuery
