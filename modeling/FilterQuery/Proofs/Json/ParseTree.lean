import FilterQuery.Loading
import FilterQuery.ParseTree.Encoding
import FilterQuery.Proofs.Json.Decoder

/-!
# Parse trees survive JSON

A parse tree of any shape, written as compact JSON, is read back as it was, as long as its
encoding does not nest deeper than a text may.
-/
namespace FilterQuery

open Json

/-! ## Spans and tokens -/

namespace Span

theorem exact_toJson (s : Span) : s.toJson.Exact := ⟨⟨s.start, rfl⟩, ⟨s.stop, rfl⟩, trivial⟩

@[simp] theorem depth_toJson (s : Span) : s.toJson.depth = 1 := rfl

theorem inverts_decoder : Inverts decoder toJson := by
  intro s d deep
  obtain ⟨d, rfl⟩ := Nat.exists_eq_add_one.2 (Nat.zero_lt_of_lt deep)
  have fills : (record d).Fills {} [("start", .uint s.start), ("end", .uint s.stop)]
      ⟨some s.start, some s.stop⟩ :=
    .cons ((yields_natural s.start).bind rfl) (.cons ((yields_natural s.stop).bind rfl) .nil)
  exact Record.yields_decoder fills (List.Sublist.refl _) (by simp [record, form]) rfl

theorem offset?_uint (n : UInt64) : offset? (.uint n) = some n := by
  have := n.toNat_lt
  simp [offset?, uint]
  omega

theorem ofJson?_toJson (s : Span) : ofJson? s.toJson = some s := by
  simp [ofJson?, toJson, Json.named, offset?_uint]

end Span

namespace Token

theorem exact_toJson (t : Token) : t.toJson.Exact := ⟨trivial, t.span.exact_toJson, trivial⟩

@[simp] theorem depth_toJson (t : Token) : t.toJson.depth = 2 := by
  simp [toJson, depth, depthMembers]

theorem ofJson?_toJson (t : Token) : ofJson? t.toJson = some t := by
  simp [ofJson?, toJson, Json.named, Span.ofJson?_toJson]

theorem inverts_decoder : Inverts decoder toJson := fun t _ deep =>
  (value_outline t.exact_toJson deep).bind (by rw [ofJson?_toJson]; rfl)

end Token

/-! ## Members that may be left out -/

section
variable {σ α β : Type} {r : Record σ α} {d : Decoder β} {depth : Nat} {acc : σ} {key : String}
  {f : β → Json}

/-- A value that may be absent fills its field, which is empty before. -/
theorem fills_optionalMember {x : Option β} (inverts : Inverts d f)
    (present : ∀ b, f b ≠ .null) (set : Option β → σ)
    (sets : ∀ o, r.set acc key o = do return set (← Decoder.optional d depth o))
    (absent : set none = acc)
    (deep : ∀ m ∈ optionalMember key (x.map f), m.2.depth ≤ depth) :
    r.Fills acc (optionalMember key (x.map f)) (set x) := by
  cases x with
  | none =>
    rw [absent]
    exact .nil
  | some b =>
    have read := yields_optional (inverts b depth (deep _ List.mem_cons_self)) (present b)
    refine .cons ?_ .nil
    rw [funext sets]
    exact read.bind rfl

/-- A list fills its field, which is empty before. -/
theorem fills_listMember {xs : List β}
    (yields : ∀ x ∈ xs, (f x).depth ≤ depth → Yields (d depth) (f x) x) (set : List β → σ)
    (sets : ∀ o, r.set acc key o = do return set (← Decoder.list d (depth + 1) o))
    (absent : set [] = acc)
    (deep : ∀ m ∈ listMember key (xs.map f), m.2.depth ≤ depth + 1) :
    r.Fills acc (listMember key (xs.map f)) (set xs) := by
  cases xs with
  | nil =>
    rw [absent]
    exact .nil
  | cons x xs =>
    have small := depthItems_le.1 (Nat.le_of_succ_le_succ (deep _ List.mem_cons_self))
    have read := yields_list fun y hy => yields y hy (small _ (List.mem_map_of_mem hy))
    refine .cons ?_ .nil
    rw [funext sets]
    exact read.bind rfl

end

theorem keys_optionalMember (key : String) (x : Option Json) :
    ((optionalMember key x).map (·.1)).Sublist [key] := by
  cases x <;> simp [optionalMember]

theorem keys_listMember (key : String) (js : List Json) :
    ((listMember key js).map (·.1)).Sublist [key] := by
  cases js <;> simp [listMember]

theorem exact_optionalMember {β : Type} {f : β → Json} (key : String) (x : Option β)
    (h : ∀ b, (f b).Exact) : ExactMembers (optionalMember key (x.map f)) := by
  cases x with
  | none => trivial
  | some b => exact ⟨h b, trivial⟩

theorem exact_listMember {β : Type} {f : β → Json} (key : String) (xs : List β)
    (h : ∀ x ∈ xs, (f x).Exact) : ExactMembers (listMember key (xs.map f)) := by
  cases xs with
  | nil => trivial
  | cons x xs =>
    refine ⟨exactItems_iff.2 fun j hj => ?_, trivial⟩
    obtain ⟨y, hy, rfl⟩ := List.mem_map.1 hj
    exact h y hy

/-! ## Ordering terms -/

namespace OrderTerm

theorem inverts_decoder : Inverts decoder toJson := by
  intro t d deep
  obtain ⟨d, rfl⟩ := Nat.exists_eq_add_one.2 (Nat.zero_lt_of_lt deep)
  have parts := depthMembers_le.1 (Nat.le_of_succ_le_succ deep)
  have name := Token.inverts_decoder _ _ (parts _ List.mem_cons_self)
  have direction : (record d).Fills ⟨some t.attributeName, none⟩
      (optionalMember "direction" (t.direction.map Token.toJson))
      ⟨some t.attributeName, t.direction⟩ :=
    fills_optionalMember Token.inverts_decoder (fun _ => nofun)
      (Draft.mk (some t.attributeName)) (fun _ => rfl) rfl fun m hm => parts m (.tail _ hm)
  have fills : (record d).Fills {} (("attribute", t.attributeName.toJson) ::
      optionalMember "direction" (t.direction.map Token.toJson))
      ⟨some t.attributeName, t.direction⟩ := .cons (name.bind rfl) direction
  exact Record.yields_decoder fills ((keys_optionalMember _ _).cons_cons _)
    (by simp [record, form]) rfl

theorem exact_toJson (t : OrderTerm) : t.toJson.Exact :=
  ⟨t.attributeName.exact_toJson, exact_optionalMember _ _ Token.exact_toJson⟩

end OrderTerm

/-! ## Nodes -/

namespace Node

theorem toJsons_eq_map (ns : List Node) : toJsons ns = ns.map toJson := by
  induction ns with
  | nil => simp [toJsons]
  | cons n ns ih => simp [toJsons, ih]

/-- Everything but the nodes inside is read as it was written. -/
theorem yields_record {child : Outline → Except Refusal Node} (n : Node) {d : Nat}
    (deep : n.toJson.depth ≤ d + 2)
    (inside : ∀ c ∈ n.children, Yields child c.toJson c) :
    Yields (Record.decoder (record fun _ => child) (d + 2)) n.toJson n := by
  obtain ⟨kind, span, name, values, flags, type, terms, children⟩ := n
  rw [toJson] at deep ⊢
  have parts := depthMembers_le.1 (Nat.le_of_succ_le_succ deep)
  simp only [toJsons_eq_map] at parts ⊢
  simp only [List.mem_append, or_imp, forall_and] at parts
  obtain ⟨⟨⟨⟨⟨⟨heads, names⟩, valued⟩, flagged⟩, typed⟩, ordered⟩, further⟩ := parts
  have head : (record (fun _ => child) (d + 1)).Fills {}
      [("kind", .string kind.name), ("span", span.toJson)]
      ⟨some kind, { kind := .unknown, span }⟩ := by
    have kinded : Yields ((record (fun _ => child) (d + 1)).set {} "kind") (.string kind.name)
        ⟨some kind, { kind := .unknown }⟩ :=
      (yields_variant (a := kind) (by rw [NodeKind.ofName_name])).bind rfl
    have spanned := Span.inverts_decoder span _ (heads ("span", span.toJson) (by simp))
    exact .cons kinded (.cons (spanned.bind rfl) .nil)
  have fills := head
    |>.append (fills_optionalMember Token.inverts_decoder (fun _ => nofun)
      (fun name => ⟨some kind, { kind := .unknown, span, attributeName := name }⟩)
      (fun _ => rfl) rfl names)
    |>.append (fills_listMember (fun u _ => Token.inverts_decoder u _)
      (fun values => ⟨some kind, ⟨.unknown, span, name, values, [], none, [], []⟩⟩)
      (fun _ => rfl) rfl valued)
    |>.append (fills_listMember (fun u _ => Token.inverts_decoder u _)
      (fun flags => ⟨some kind, ⟨.unknown, span, name, values, flags, none, [], []⟩⟩)
      (fun _ => rfl) rfl flagged)
    |>.append (fills_optionalMember Token.inverts_decoder (fun _ => nofun)
      (fun type => ⟨some kind, ⟨.unknown, span, name, values, flags, type, [], []⟩⟩)
      (fun _ => rfl) rfl typed)
    |>.append (fills_listMember (fun t _ => OrderTerm.inverts_decoder t _)
      (fun terms => ⟨some kind, ⟨.unknown, span, name, values, flags, type, terms, []⟩⟩)
      (fun _ => rfl) rfl ordered)
    |>.append (fills_listMember (d := fun _ => child) (fun c hc _ => inside c hc)
      (fun children => ⟨some kind, ⟨.unknown, span, name, values, flags, type, terms, children⟩⟩)
      (fun _ => rfl) rfl further)
  have keys := (List.Sublist.refl ["kind", "span"])
    |>.append (keys_optionalMember "attribute" (name.map Token.toJson))
    |>.append (keys_listMember "values" (values.map Token.toJson))
    |>.append (keys_listMember "flags" (flags.map Token.toJson))
    |>.append (keys_optionalMember "objectType" (type.map Token.toJson))
    |>.append (keys_listMember "orderTerms" (terms.map OrderTerm.toJson))
    |>.append (keys_listMember "children" (children.map toJson))
  refine Record.yields_decoder fills ?_ (by simp [record, form]) rfl
  simp only [List.map_append]
  exact keys

/-- A node takes up two levels with its span, and two levels around each node inside. -/
theorem depth_parts {n : Node} {d : Nat} (deep : n.toJson.depth ≤ d) :
    2 ≤ d ∧ ∀ c ∈ n.children, c.toJson.depth + 2 ≤ d := by
  obtain ⟨kind, span, name, values, flags, type, terms, children⟩ := n
  rw [toJson, depth, toJsons_eq_map] at deep
  have parts := depthMembers_le.1 (Nat.le_sub_one_of_lt deep)
  constructor
  · have spanned := parts ("span", span.toJson) (by simp)
    rw [Span.depth_toJson] at spanned
    omega
  · intro c hc
    have nested := parts ("children", .array (children.map toJson)) (by
      cases children with
      | nil => cases hc
      | cons c cs => simp [listMember])
    rw [depth] at nested
    have inside := depthItems_le.1 (Nat.le_sub_one_of_lt nested) _ (List.mem_map_of_mem hc)
    omega

mutual

theorem yields_decodeAt : ∀ (n : Node) (d : Nat), n.toJson.depth ≤ d →
    Yields (decodeAt d) n.toJson n
  | ⟨kind, span, name, values, flags, type, terms, children⟩, d, deep => by
    obtain ⟨two, inside⟩ := depth_parts deep
    obtain ⟨d, rfl⟩ : ∃ e, d = e + 2 := ⟨d - 2, by omega⟩
    exact yields_record _ deep (yields_decodeAt_all children d fun c hc =>
      Nat.le_of_add_le_add_right (inside c hc))

theorem yields_decodeAt_all : ∀ (ns : List Node) (d : Nat), (∀ c ∈ ns, c.toJson.depth ≤ d) →
    ∀ c ∈ ns, Yields (decodeAt d) c.toJson c
  | [], _, _ => by simp
  | n :: ns, d, deep => by
    rw [List.forall_mem_cons] at deep ⊢
    exact ⟨yields_decodeAt n d deep.1, yields_decodeAt_all ns d deep.2⟩

end

theorem inverts_decoder : Inverts decoder toJson := yields_decodeAt

mutual

theorem exact_toJson : ∀ n : Node, n.toJson.Exact
  | ⟨kind, span, name, values, flags, type, terms, children⟩ => by
    have heads : ExactMembers [("kind", .string kind.name), ("span", span.toJson)] :=
      ⟨trivial, span.exact_toJson, trivial⟩
    have names := exact_optionalMember "attribute" name Token.exact_toJson
    have typed := exact_optionalMember "objectType" type Token.exact_toJson
    have valued := exact_listMember "values" values fun t _ => t.exact_toJson
    have flagged := exact_listMember "flags" flags fun t _ => t.exact_toJson
    have ordered := exact_listMember "orderTerms" terms fun t _ => t.exact_toJson
    have further := exact_listMember "children" children (exact_toJson_all children)
    rw [toJson, toJsons_eq_map, Exact]
    simp only [exactMembers_iff, List.mem_append, or_imp, forall_and] at *
    exact ⟨⟨⟨⟨⟨⟨heads, names⟩, valued⟩, flagged⟩, typed⟩, ordered⟩, further⟩

theorem exact_toJson_all : ∀ ns : List Node, ∀ n ∈ ns, n.toJson.Exact
  | [] => by simp
  | n :: ns => by simpa using ⟨exact_toJson n, exact_toJson_all ns⟩

end

end Node

/-! ## Trees -/

namespace ParseTree

theorem inverts_decoder : Inverts decoder toJson := by
  intro t d deep
  rw [toJson, depth, Node.toJsons_eq_map] at deep
  have parts := depthMembers_le.1 (Nat.le_sub_one_of_lt deep)
  have nested := parts ("nodes", .array (t.nodes.map Node.toJson)) (by simp)
  rw [depth] at nested
  obtain ⟨d, rfl⟩ : ∃ e, d = e + 2 := ⟨d - 2, by omega⟩
  have inside := depthItems_le.1 (Nat.le_of_succ_le_succ nested)
  have nodes : Yields (Decoder.list Node.decoder (d + 1)) (.array (t.nodes.map Node.toJson))
      t.nodes :=
    yields_list fun n hn => Node.inverts_decoder n d (inside _ (List.mem_map_of_mem hn))
  have fills : (record (d + 1)).Fills {} [("name", .string t.name), ("source", .string t.source),
      ("nodes", .array (t.nodes.map Node.toJson))] ⟨t.name, t.source, some t.nodes⟩ :=
    .cons ((yields_string t.name).bind rfl)
      (.cons ((yields_string t.source).bind rfl) (.cons (nodes.bind rfl) .nil))
  rw [toJson, Node.toJsons_eq_map]
  exact Record.yields_decoder fills (List.Sublist.refl _) (by simp [record, form]) rfl

theorem exact_toJson (t : ParseTree) : t.toJson.Exact := by
  refine ⟨trivial, trivial, ?_, trivial⟩
  rw [Exact, exactItems_iff, Node.toJsons_eq_map]
  simpa using Node.exact_toJson_all t.nodes

/-- A tree whose encoding nests no deeper than a text may is read back from its compact
JSON text. -/
theorem ofText_compact_toJson (t : ParseTree) (h : t.toJson.depth ≤ depthLimit) :
    ofText .json (compact t.toJson) = .ok t := by
  rw [ofText, decode_compact t.exact_toJson (inverts_decoder t _ h)]
  rfl

/-- Scopes around a node of no known construct, whose one name and span are unusual. -/
def scopesAround : Nat → Node
  | 0 =>
    { kind := .unknown
      attributeName := some ⟨"\x01\"\\é\n", ⟨UInt64.ofNat (Nat.pow 2 64 - 1), 0⟩⟩ }
  | depth + 1 => .scope .not [scopesAround depth]

theorem depth_scopesAround (n : Nat) : (scopesAround n).toJson.depth = 2 * n + 3 := by
  induction n with
  | zero => simp [scopesAround, Node.toJson, Node.toJsons, optionalMember, listMember, depth,
      depthMembers]
  | succ n ih =>
    simp [scopesAround, Node.scope, Node.toJson, Node.toJsons, optionalMember, listMember, depth,
      depthMembers, depthItems, ih]
    omega

/-- A tree that nests as deep as a text may. -/
def deepest : ParseTree where
  source := "\x7f"
  nodes := [scopesAround 61]

theorem depth_deepest : deepest.toJson.depth = depthLimit := by
  simp [deepest, toJson, Node.toJsons, depth, depthMembers, depthItems, depth_scopesAround,
    depthLimit]

theorem ofText_compact_toJson_deepest :
    deepest.toJson.depth ≤ depthLimit ∧ ofText .json (compact deepest.toJson) = .ok deepest :=
  ⟨depth_deepest.le, ofText_compact_toJson deepest depth_deepest.le⟩

end ParseTree

end FilterQuery
