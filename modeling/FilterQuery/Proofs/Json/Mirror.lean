import FilterQuery.Proofs.Json.Grammar
import FilterQuery.Proofs.Json.ParseTree
import FilterQuery.Proofs.Json.Strictness

/-!
# Parse trees mirror their JSON texts

A parse tree that is read from a JSON text has the shape of the text: at every depth no
field is missing that must be there, none stands twice and none has a name of its own; and
what the tree holds is what the text holds, item by item, or the default where the text
holds nothing.
-/
namespace FilterQuery

open Json

/-! ## Texts -/

/-- What is read from a text is read from an outline of the text. -/
theorem Json.exists_describes_of_decode {α : Type} {d : Decoder α} {text : String} {a : α}
    (ends : ∀ {depth o a}, d depth o = .ok a → ∃ stop, o.stop? = some stop)
    (h : decode d text = .ok a) :
    ∃ (depth : Nat) (o : Outline), d depth o = .ok a ∧ o.Describes text.toList := by
  obtain ⟨b, read, h⟩ := bind_eq_ok.1 (mapError_eq_ok.1 h)
  obtain ⟨stop, stops⟩ := ends read
  rw [stops, Option.getD_some] at h
  split at h
  next blank =>
    cases h
    exact ⟨depthLimit, _, read, describes_ofText stops blank⟩
  next => cases h

/-! ## What mirrors what -/

/-- Both ends of the span stand in the value. Members that are no ends are passed over. -/
def Span.Mirrors (o : Outline) (s : Span) : Prop :=
  ∃ es, form.Lists o es ∧ Holds IsNatural none es "start" s.start ∧
    Holds IsNatural none es "end" s.stop

/-- The token stands as a bare string, or as an object with a text and perhaps a span. -/
inductive Token.Mirrors : Outline → Token → Prop
  | bare {o : Outline} {s : String} (text : IsString o s) : Token.Mirrors o ⟨s, {}⟩
  | spanned {start : Rest} {members : Members} {es : List (String × Outline)} {t : Token}
      (read : members.list? = some es)
      (once : ∀ name ∈ ["text", "span"], (es.map (·.1)).count name ≤ 1)
      (text : Holds IsString none es "text" t.text)
      (span : Holds Span.Mirrors (some {}) es "span" t.span) :
      Token.Mirrors (.object start members) t

/-- The value is the name of the kind, or a name that no known kind has. -/
def NodeKind.Mirrors (o : Outline) (k : NodeKind) : Prop :=
  ∃ s, IsName o s ∧ (k ≠ .unknown ∧ s = k.name ∨
    k = .unknown ∧ ∀ k' : NodeKind, k' ≠ .unknown → s ≠ k'.name)

def OrderTerm.Mirrors (o : Outline) (t : OrderTerm) : Prop :=
  ∃ es, form.Lists o es ∧ Holds Token.Mirrors none es "attribute" t.attributeName ∧
    Holds (Nullable Token.Mirrors) (some none) es "direction" t.direction

/-- The node and all nodes beneath it stand in the value. -/
inductive Node.Mirrors : Outline → Node → Prop
  | node {o : Outline} {es : List (String × Outline)} {n : Node} {inside : List Outline}
      (lists : form.Lists o es)
      (kind : Holds NodeKind.Mirrors none es "kind" n.kind)
      (span : Holds Span.Mirrors (some {}) es "span" n.span)
      (name : Holds (Nullable Token.Mirrors) (some none) es "attribute" n.attributeName)
      (values : Holds (Listed Token.Mirrors) (some []) es "values" n.values)
      (flags : Holds (Listed Token.Mirrors) (some []) es "flags" n.flags)
      (type : Holds (Nullable Token.Mirrors) (some none) es "objectType" n.objectType)
      (terms : Holds (Listed OrderTerm.Mirrors) (some []) es "orderTerms" n.orderTerms)
      (array : Holds IsArray (some []) es "children" inside)
      (children : List.Forall₂ Node.Mirrors inside n.children) : Node.Mirrors o n

/-- The tree stands in the value. -/
def ParseTree.Mirrors (o : Outline) (t : ParseTree) : Prop :=
  ∃ es, form.Lists o es ∧ Holds IsString (some "query") es "name" t.name ∧
    Holds IsString (some "") es "source" t.source ∧
    Holds (Listed Node.Mirrors) none es "nodes" t.nodes

/-! ## Spans -/

namespace Span

variable {depth : Nat} {o : Outline} {s : Span}

theorem set_frame {d d' : Draft} {k : String} {v : Outline} (known : k ∈ form.fields)
    (h : (record depth).set d k v = .ok d') :
    (k ≠ "start" → d'.start = d.start) ∧ (k ≠ "end" → d'.stop = d.stop) := by
  simp only [form, List.mem_cons, List.not_mem_nil, or_false] at known
  rcases known with rfl | rfl <;>
    (obtain ⟨n, -, h⟩ := bind_eq_ok.1 h; cases h; simp)

theorem mirrors_of_decoder (h : decoder depth o = .ok s) : s.Mirrors o := by
  obtain ⟨depth, es, d, lists, once, sets, finished⟩ :=
    Record.decoder_eq_ok (fun _ => by simp [record, form]) h
  have start : Holds (Found IsNatural) (some none) es "start" d.start :=
    sets.holds_read (p := Draft.start) (by simp [record, form]) (fun _ _ => rfl)
      (fun _ read => ⟨_, rfl, Decoder.isNatural_of_natural read⟩)
      (fun known other h => (set_frame known h).1 other) once
  have stop : Holds (Found IsNatural) (some none) es "end" d.stop :=
    sets.holds_read (p := Draft.stop) (by simp [record, form]) (fun _ _ => rfl)
      (fun _ read => ⟨_, rfl, Decoder.isNatural_of_natural read⟩)
      (fun known other h => (set_frame known h).2 other) once
  obtain ⟨a, b⟩ := d
  cases a <;> cases b <;> cases finished
  exact ⟨es, lists, start.required, stop.required⟩

theorem isNatural_of_offset? {n : UInt64} {j : Json} (read : offset? j = some n)
    (reads : Reads o j) : IsNatural o n := by
  cases j with
  | int m =>
    obtain ⟨start, stop, k, here, number, whole⟩ := reads.form
    refine ⟨start, stop, k, here, number, ?_⟩
    simp only [offset?] at read
    split at read
    next fits =>
      have small : m.toNat < 2 ^ 64 := by
        have := fits.2
        rw [Nat.pow_eq] at this
        omega
      cases read
      rw [whole, UInt64.toNat_ofNat_of_lt' small]
      congr
      omega
    next => cases read
  | _ => cases read

theorem mirrors_of_ofJson? {j : Json} (read : ofJson? j = some s) (reads : Reads o j) :
    s.Mirrors o := by
  unfold ofJson? at read
  split at read
  next a b =>
    simp only [bind, Option.bind_eq_some_iff] at read
    obtain ⟨m, first, n, second, same⟩ := read
    cases same
    obtain ⟨vs, ⟨start, items, rfl, list⟩, each⟩ := reads.form
    cases each with
    | cons va each =>
      cases each with
      | cons vb each =>
        cases each
        exact ⟨_, .array list (by simp [form]),
          (holds_cons_self _).2 (isNatural_of_offset? first va),
          (holds_cons_of_ne (by decide) _).2
            ((holds_cons_self _).2 (isNatural_of_offset? second vb))⟩
  next ms =>
    split at read
    next a b starts ends =>
      simp only [bind, Option.bind_eq_some_iff] at read
      obtain ⟨m, first, n, second, same⟩ := read
      cases same
      obtain ⟨start, members, es, rfl, list, each⟩ := reads.form
      refine ⟨es, .object list (by simp [form]) ?_,
        holds_of_named each starts (isNatural_of_offset? first),
        holds_of_named each ends (isNatural_of_offset? second)⟩
      intro name hname
      rw [count_eq_length_named each]
      rcases List.mem_pair.1 hname with rfl | rfl
      · simp [starts]
      · simp [ends]
    next => cases read
  next => cases read

end Span

/-! ## Tokens -/

namespace Token

variable {depth : Nat} {o : Outline} {t : Token}

theorem mirrors_of_decoder (h : decoder depth o = .ok t) : t.Mirrors o := by
  obtain ⟨j, value, h⟩ := bind_eq_ok.1 h
  have reads : Reads o j := ⟨depth, value⟩
  split at h
  next t' read =>
    cases h
    unfold ofJson? at read
    split at read
    next s =>
      cases read
      exact .bare reads.form
    next ms =>
      obtain ⟨start, members, es, rfl, list, each⟩ := reads.form
      split at read
      next s texts spans =>
        cases read
        refine .spanned list ?_ (holds_of_named each texts Reads.form)
          (holds_of_named_nil each spans)
        intro name hname
        rw [count_eq_length_named each]
        rcases List.mem_pair.1 hname with rfl | rfl
        · simp [texts]
        · simp [spans]
      next s j' texts spans =>
        obtain ⟨span, spanned, same⟩ := Option.map_eq_some_iff.1 read
        cases same
        refine .spanned list ?_ (holds_of_named each texts Reads.form)
          (holds_of_named each spans (Span.mirrors_of_ofJson? spanned))
        intro name hname
        rw [count_eq_length_named each]
        rcases List.mem_pair.1 hname with rfl | rfl
        · simp [texts]
        · simp [spans]
      next => cases read
    next => cases read
  next => cases h

/-- The ways to write a token without a place: bare, and with its span left out or empty. -/
def spellings (s : String) : List Json :=
  [.string s, .object [("text", .string s)],
    .object [("text", .string s), ("span", Span.toJson {})]]

theorem decode_spellings (s : String) :
    ∀ j ∈ spellings s, decode decoder (compact j) = .ok ⟨s, {}⟩ := by
  intro j hj
  have exact' : j.Exact ∧ j.depth ≤ depthLimit ∧ ofJson? j = some ⟨s, {}⟩ := by
    simp only [spellings, List.mem_cons, List.not_mem_nil, or_false] at hj
    rcases hj with rfl | rfl | rfl
    · exact ⟨trivial, Nat.zero_le _, rfl⟩
    · exact ⟨⟨trivial, trivial⟩, by simp [depth, depthMembers, depthLimit], rfl⟩
    · exact ⟨⟨trivial, Span.exact_toJson {}, trivial⟩,
        by simp [depth, depthMembers, depthLimit], rfl⟩
  obtain ⟨exact', deep, read⟩ := exact'
  exact decode_compact exact' ((value_outline exact' deep).bind (by rw [read]; rfl))

end Token

/-! ## Kinds and ordering terms -/

theorem NodeKind.mirrors_of_decoder {depth : Nat} {o : Outline} {k : NodeKind}
    (h : decoder depth o = .ok k) : k.Mirrors o := by
  obtain ⟨s, named, found⟩ := Decoder.isName_of_variant h
  refine ⟨s, named, ?_⟩
  obtain rfl : ofName s = k := Except.ok.inj found
  unfold ofName
  cases hf : list.find? (·.name == s) with
  | none =>
    refine .inr ⟨rfl, fun k' _ same => ?_⟩
    have missed := List.find?_eq_none.1 hf k' (mem_list k')
    simp [same] at missed
  | some k =>
    have same : k.name = s := by simpa using List.find?_some hf
    by_cases unknown : k = .unknown
    · subst unknown
      refine .inr ⟨rfl, fun k' known other => known ?_⟩
      rw [← ofName_name k', ← other, ← same, ofName_name]
    · exact .inl ⟨unknown, same.symm⟩

namespace OrderTerm

theorem set_frame {depth : Nat} {d d' : Draft} {k : String} {v : Outline}
    (known : k ∈ form.fields) (h : (record depth).set d k v = .ok d') :
    (k ≠ "attribute" → d'.attributeName = d.attributeName) ∧
    (k ≠ "direction" → d'.direction = d.direction) := by
  simp only [form, List.mem_cons, List.not_mem_nil, or_false] at known
  rcases known with rfl | rfl <;>
    (obtain ⟨x, -, h⟩ := bind_eq_ok.1 h; cases h; simp)

theorem mirrors_of_decoder {depth : Nat} {o : Outline} {t : OrderTerm}
    (h : decoder depth o = .ok t) : t.Mirrors o := by
  obtain ⟨depth, es, d, lists, once, sets, finished⟩ :=
    Record.decoder_eq_ok (fun _ => by simp [record, form]) h
  have name : Holds (Found Token.Mirrors) (some none) es "attribute" d.attributeName :=
    sets.holds_read (p := Draft.attributeName) (by simp [record, form]) (fun _ _ => rfl)
      (fun _ read => ⟨_, rfl, Token.mirrors_of_decoder read⟩)
      (fun known other h => (set_frame known h).1 other) once
  have direction : Holds (Nullable Token.Mirrors) (some none) es "direction" d.direction :=
    sets.holds_read (p := Draft.direction) (by simp [record, form]) (fun _ _ => rfl)
      (fun _ read => Decoder.nullable_of_optional Token.mirrors_of_decoder read)
      (fun known other h => (set_frame known h).2 other) once
  obtain ⟨a, b⟩ := d
  cases a <;> cases finished
  exact ⟨es, lists, name.required, direction⟩

end OrderTerm

/-! ## Nodes -/

namespace Node

/-- Everything but the field of that name is as it was. -/
structure Draft.Keeps (d d' : Draft) (k : String) : Prop where
  kind : k ≠ "kind" → d'.kind = d.kind
  span : k ≠ "span" → d'.node.span = d.node.span
  attributeName : k ≠ "attribute" → d'.node.attributeName = d.node.attributeName
  values : k ≠ "values" → d'.node.values = d.node.values
  flags : k ≠ "flags" → d'.node.flags = d.node.flags
  objectType : k ≠ "objectType" → d'.node.objectType = d.node.objectType
  orderTerms : k ≠ "orderTerms" → d'.node.orderTerms = d.node.orderTerms
  children : k ≠ "children" → d'.node.children = d.node.children

theorem keeps_of_set {child : Decoder Node} {depth : Nat} {d d' : Draft} {k : String}
    {v : Outline} (known : k ∈ form.fields) (h : (record child depth).set d k v = .ok d') :
    d.Keeps d' k := by
  simp only [form, List.mem_cons, List.not_mem_nil, or_false] at known
  rcases known with rfl | rfl | rfl | rfl | rfl | rfl | rfl | rfl <;>
    (obtain ⟨x, -, h⟩ := bind_eq_ok.1 h; cases h; constructor <;> simp)

theorem mirrors_of_record {child : Decoder Node} {depth : Nat} {o : Outline} {n : Node}
    (below : ∀ {depth o n}, child depth o = .ok n → n.Mirrors o)
    (h : Record.decoder (record child) depth o = .ok n) : n.Mirrors o := by
  obtain ⟨depth, es, d, lists, once, sets, finished⟩ :=
    Record.decoder_eq_ok (fun _ => by simp [record, form]) h
  have kind : Holds (Found NodeKind.Mirrors) (some none) es "kind" d.kind :=
    sets.holds_read (p := Draft.kind) (by simp [record, form]) (fun _ _ => rfl)
      (fun _ read => ⟨_, rfl, NodeKind.mirrors_of_decoder read⟩)
      (fun known other h => (keeps_of_set known h).kind other) once
  have span : Holds Span.Mirrors (some {}) es "span" d.node.span :=
    sets.holds_read (p := fun d => d.node.span) (by simp [record, form]) (fun _ _ => rfl)
      (fun _ read => Span.mirrors_of_decoder read)
      (fun known other h => (keeps_of_set known h).span other) once
  have name : Holds (Nullable Token.Mirrors) (some none) es "attribute" d.node.attributeName :=
    sets.holds_read (p := fun d => d.node.attributeName) (by simp [record, form]) (fun _ _ => rfl)
      (fun _ read => Decoder.nullable_of_optional Token.mirrors_of_decoder read)
      (fun known other h => (keeps_of_set known h).attributeName other) once
  have values : Holds (Listed Token.Mirrors) (some []) es "values" d.node.values :=
    sets.holds_read (p := fun d => d.node.values) (by simp [record, form]) (fun _ _ => rfl)
      (fun _ read => Decoder.listed_of_list (R := Token.Mirrors) Token.mirrors_of_decoder read)
      (fun known other h => (keeps_of_set known h).values other) once
  have flags : Holds (Listed Token.Mirrors) (some []) es "flags" d.node.flags :=
    sets.holds_read (p := fun d => d.node.flags) (by simp [record, form]) (fun _ _ => rfl)
      (fun _ read => Decoder.listed_of_list (R := Token.Mirrors) Token.mirrors_of_decoder read)
      (fun known other h => (keeps_of_set known h).flags other) once
  have type : Holds (Nullable Token.Mirrors) (some none) es "objectType" d.node.objectType :=
    sets.holds_read (p := fun d => d.node.objectType) (by simp [record, form]) (fun _ _ => rfl)
      (fun _ read => Decoder.nullable_of_optional Token.mirrors_of_decoder read)
      (fun known other h => (keeps_of_set known h).objectType other) once
  have terms : Holds (Listed OrderTerm.Mirrors) (some []) es "orderTerms" d.node.orderTerms :=
    sets.holds_read (p := fun d => d.node.orderTerms) (by simp [record, form]) (fun _ _ => rfl)
      (fun _ read => Decoder.listed_of_list (R := OrderTerm.Mirrors)
        OrderTerm.mirrors_of_decoder read)
      (fun known other h => (keeps_of_set known h).orderTerms other) once
  have children : Holds (Listed Node.Mirrors) (some []) es "children" d.node.children :=
    sets.holds_read (p := fun d => d.node.children) (by simp [record, form]) (fun _ _ => rfl)
      (fun _ read => Decoder.listed_of_list (R := Node.Mirrors) below read)
      (fun known other h => (keeps_of_set known h).children other) once
  obtain ⟨inside, array, each⟩ := children.listed
  obtain ⟨k, node⟩ := d
  cases k <;> cases finished
  exact .node lists kind.required span name values flags type terms array each

theorem mirrors_of_decodeAt : ∀ (depth : Nat) {o : Outline} {n : Node},
    decodeAt depth o = .ok n → n.Mirrors o
  | 0, _, _, h => mirrors_of_record (fun deep => by cases deep) h
  | 1, _, _, h => mirrors_of_record (fun deep => by cases deep) h
  | depth + 2, _, _, h => mirrors_of_record (mirrors_of_decodeAt depth) h

end Node

/-! ## Trees -/

namespace ParseTree

theorem set_frame {depth : Nat} {d d' : Draft} {k : String} {v : Outline}
    (known : k ∈ form.fields) (h : (record depth).set d k v = .ok d') :
    (k ≠ "name" → d'.name = d.name) ∧ (k ≠ "source" → d'.source = d.source) ∧
    (k ≠ "nodes" → d'.nodes = d.nodes) := by
  simp only [form, List.mem_cons, List.not_mem_nil, or_false] at known
  rcases known with rfl | rfl | rfl <;>
    (obtain ⟨x, -, h⟩ := bind_eq_ok.1 h; cases h; simp)

theorem mirrors_of_decoder {depth : Nat} {o : Outline} {t : ParseTree}
    (h : decoder depth o = .ok t) : t.Mirrors o := by
  obtain ⟨depth, es, d, lists, once, sets, finished⟩ :=
    Record.decoder_eq_ok (fun _ => by simp [record, form]) h
  have name : Holds IsString (some "query") es "name" d.name :=
    sets.holds_read (p := Draft.name) (by simp [record, form]) (fun _ _ => rfl)
      (fun _ read => Decoder.isString_of_string read)
      (fun known other h => (set_frame known h).1 other) once
  have source : Holds IsString (some "") es "source" d.source :=
    sets.holds_read (p := Draft.source) (by simp [record, form]) (fun _ _ => rfl)
      (fun _ read => Decoder.isString_of_string read)
      (fun known other h => (set_frame known h).2.1 other) once
  have nodes : Holds (Found (Listed Node.Mirrors)) (some none) es "nodes" d.nodes :=
    sets.holds_read (p := Draft.nodes) (by simp [record, form]) (fun _ _ => rfl)
      (fun _ read => ⟨_, rfl, Decoder.listed_of_list (Node.mirrors_of_decodeAt _) read⟩)
      (fun known other h => (set_frame known h).2.2 other) once
  obtain ⟨_, _, ns⟩ := d
  cases ns <;> cases finished
  exact ⟨es, lists, name, source, nodes.required⟩

theorem Mirrors.exists_stop {o : Outline} {t : ParseTree} (h : t.Mirrors o) :
    ∃ stop, o.stop? = some stop :=
  let ⟨_, lists, _⟩ := h
  lists.exists_stop

theorem exists_describes_of_ofText {text : String} {t : ParseTree}
    (h : ofText .json text = .ok t) : ∃ o : Outline, t.Mirrors o ∧ o.Describes text.toList := by
  obtain ⟨depth, o, read, describes⟩ :=
    exists_describes_of_decode (fun h => (mirrors_of_decoder h).exists_stop) (mapError_eq_ok.1 h)
  exact ⟨o, mirrors_of_decoder read, describes⟩

/-- Whatever tree is read from a JSON text, it mirrors the outline of the text, and the text
has no other outline. A token without a place is read alike in each of its spellings. -/
theorem mirrors_of_ofText :
    (∀ (text : String) (t : ParseTree), ofText .json text = .ok t →
      ∃ o : Outline, t.Mirrors o ∧ ∀ o' : Outline, o'.Describes text.toList ↔ o' = o) ∧
    ∀ (s : String), ∀ j ∈ Token.spellings s, decode Token.decoder (compact j) = .ok ⟨s, {}⟩ := by
  refine ⟨fun text t h => ?_, Token.decode_spellings⟩
  obtain ⟨o, mirrors, describes⟩ := exists_describes_of_ofText h
  refine ⟨o, mirrors, fun o' => ⟨fun other => other.unique describes, ?_⟩⟩
  rintro rfl
  exact describes

/-- A node as an array, with a kind as an object; and one of no known kind, its fields in
another order than declared, with tokens in both spellings. -/
def looseText : String :=
  " \x7b\"nodes\": [[\x7b\"not\": null\x7d, [1, 2]], \x7b\"values\": [\"a\", \x7b\"text\": \"b\", " ++
    "\"span\": \x7b\"end\": 9, \"start\": 7, \"line\": 1\x7d\x7d],\n\"kind\": \"near\"\x7d]\x7d"

theorem exists_read_looseText :
    ∃ t, ofText .json looseText = .ok t ∧ t.nodes.map (·.kind) = [.not, .unknown] ∧
      t.nodes.map (·.values.map (·.span)) = [[], [{}, ⟨7, 9⟩]] := by
  have reads : (ofText .json looseText).toOption.any (fun t =>
      t.nodes.map (·.kind) = [.not, .unknown] ∧
        t.nodes.map (·.values.map (·.span)) = [[], [{}, ⟨7, 9⟩]]) = true := by
    decide +kernel
  cases read : ofText .json looseText with
  | ok t =>
    rw [read] at reads
    exact ⟨t, rfl, of_decide_eq_true reads⟩
  | error fault =>
    rw [read] at reads
    cases reads

theorem mirrors_of_ofText_looseText :
    ∃ t, ofText .json looseText = .ok t ∧
      (∃ o : Outline, t.Mirrors o ∧ ∀ o' : Outline, o'.Describes looseText.toList ↔ o' = o) ∧
      ∀ j ∈ Token.spellings "a", decode Token.decoder (compact j) = .ok ⟨"a", {}⟩ :=
  let ⟨t, read, _⟩ := exists_read_looseText
  ⟨t, read, mirrors_of_ofText.1 looseText t read, mirrors_of_ofText.2 "a"⟩

end ParseTree

end FilterQuery
