import FilterQuery.Proofs.Address
import FilterQuery.Proofs.WellTyped

/-!
# Growing schemas

A schema that gains attributes keeps the outcome of every tree, but for the trees that failed
for want of an attribute. Of a schema, only what it says about the names in a tree matters to
that tree: resolution is the one step of a translation that looks at the schema, and the
first failure stays the first.
-/
namespace FilterQuery

/-- The second outcome is the first, unless that is a failure of an excused kind. -/
def Survives {α : Type} (excused : ErrorKind → Prop) (x y : Except Diagnostic α) : Prop :=
  y = x ∨ ∃ d, x = .error d ∧ excused d.kind

section
variable {α β : Type} {excused : ErrorKind → Prop}

theorem Survives.refl (x : Except Diagnostic α) : Survives excused x x := .inl rfl

theorem Survives.bind {x y : Except Diagnostic α} {f g : α → Except Diagnostic β}
    (hx : Survives excused x y) (hf : ∀ a, Survives excused (f a) (g a)) :
    Survives excused (x >>= f) (y >>= g) := by
  rcases hx with rfl | ⟨d, rfl, excuse⟩
  · cases y with
    | ok a => exact hf a
    | error d => exact .refl _
  · exact .inr ⟨d, rfl, excuse⟩

/-- What follows in the same way does no harm. -/
theorem Survives.bind_left {x y : Except Diagnostic α} (hx : Survives excused x y)
    (f : α → Except Diagnostic β) : Survives excused (x >>= f) (y >>= f) :=
  hx.bind fun a => .refl (f a)

theorem Survives.map {x y : Except Diagnostic α} (hx : Survives excused x y) (f : α → β) :
    Survives excused (x.map f) (y.map f) := by
  rcases hx with rfl | ⟨d, rfl, excuse⟩
  · exact .refl _
  · exact .inr ⟨d, rfl, excuse⟩

end

/-- The attribute names in the tokens of the node itself. -/
def Node.names (n : Node) : List String :=
  (n.attributeName.toList ++ n.orderTerms.map (·.attributeName)).map (·.text)

/-- The attribute names in all tokens of a tree. -/
def ParseTree.names (t : ParseTree) : List String := t.entries.flatMap (·.2.names)

/-- The second resolver finds for the name what the first does, unless that is a failure of an
excused kind. -/
def Resolver.Keeps (excused : ErrorKind → Prop) (r r' : Resolver) (name : String) : Prop :=
  ∀ c, r' name c = r name c ∨ ∃ e, r name c = .error e ∧ excused (Failure.unresolved e).kind

section
variable {excused : ErrorKind → Prop} {s : Setting} {r' : Resolver} {n : Node}

theorem Setting.resolve_survives {t : Token} (h : s.resolver.Keeps excused r' t.text)
    (c : Capability) (fallback : Span) :
    Survives excused (s.resolve t c fallback) ({ s with resolver := r' }.resolve t c fallback) := by
  simp only [Setting.resolve]
  rcases h c with same | ⟨e, found, excuse⟩
  · rw [same]
    exact .refl _
  · rw [found]
    exact .inr ⟨_, rfl, excuse⟩

theorem Setting.readTerms_survives {ts : List OrderTerm} (span : Span)
    (h : ∀ t ∈ ts, s.resolver.Keeps excused r' t.attributeName.text) :
    Survives excused (s.readTerms span ts) ({ s with resolver := r' }.readTerms span ts) := by
  unfold Setting.readTerms
  induction ts with
  | nil => exact .refl _
  | cons t ts ih =>
    rw [List.mapM_cons, List.mapM_cons]
    have first := resolve_survives (h t List.mem_cons_self) .ordered span
    have rest := ih fun u hu => h u (List.mem_cons_of_mem t hu)
    exact (first.map _).bind fun o => rest.bind_left _

theorem Leaf.theAttribute_survives (h : ∀ name ∈ n.names, s.resolver.Keeps excused r' name)
    (c : Capability) :
    Survives excused (theAttribute s n c) (theAttribute { s with resolver := r' } n c) := by
  unfold theAttribute
  cases ht : n.attributeName with
  | none => exact .refl _
  | some t => exact Setting.resolve_survives (h t.text (by simp [Node.names, ht])) c n.span

theorem Leaf.convertAll_withResolver (a : Attribute) (ts : List Token) :
    convertAll { s with resolver := r' } n a ts = convertAll s n a ts := by
  induction ts with
  | nil => rfl
  | cons t ts ih =>
    rw [convertAll, convertAll, ih]
    rfl

/-- The attribute comes first, and all else is read without the resolver. -/
theorem Leaf.build_survives (h : ∀ name ∈ n.names, s.resolver.Keeps excused r' name)
    {k : NodeKind} {build : Builder} (hb : builder? k = some build) :
    Survives excused (build s n) (build { s with resolver := r' } n) := by
  have named := theAttribute_survives h
  have text : Survives excused (textOperands s n) (textOperands { s with resolver := r' } n) :=
    (named .text).bind_left _
  cases k <;> cases hb
  case all | none => exact .refl _
  case startsWith | endsWith | contains | isContainedIn | matchesRegex => exact text.bind_left _
  case oneOf =>
    refine (named .unconstrained).bind fun a => (Survives.refl _).bind fun _ => ?_
    exact Survives.bind_left (.inl (convertAll_withResolver a n.values)) _
  all_goals exact (named _).bind_left _

end

namespace Node

section
variable {excused : ErrorKind → Prop} {s : Setting} {r' : Resolver} {removed : List NodeKind}

theorem readQuery_survives {n : Node} (h : ∀ name ∈ n.names, s.resolver.Keeps excused r' name)
    (before : Nat) (inner : List (Spanned Query)) :
    Survives excused (n.readQuery s removed before inner)
      (n.readQuery { s with resolver := r' } removed before inner) := by
  rw [readQuery_eq, readQuery_eq, Handlers.get?_without]
  split
  next handler hk =>
    split at hk
    next => cases hk
    next =>
      cases handler with
      | leaf build =>
        obtain ⟨k, hb⟩ : ∃ k, Leaf.builder? k = some build := by
          refine ⟨n.kind, ?_⟩
          cases hn : n.kind <;> rw [hn] at hk <;> cases hk <;> rfl
        exact Leaf.build_survives h hb
      | scope reduce =>
        refine .inl ?_
        cases hn : n.kind <;> rw [hn] at hk <;> cases hk <;> rfl
  next => exact .refl _

mutual

theorem reading_survives (n : Node) (a : Address) (before : Nat)
    (h : ∀ e ∈ n.entries a, ∀ name ∈ e.2.names, s.resolver.Keeps excused r' name) :
    Survives excused (n.reading s removed before)
      (n.reading { s with resolver := r' } removed before) := by
  match n with
  | ⟨kind, span, name, values, flags, type, terms, children⟩ =>
    rw [entries, List.forall_mem_append, List.forall_mem_singleton] at h
    obtain ⟨inside, own⟩ := h
    rw [reading, reading]
    refine (Survives.refl _).bind fun _ => ?_
    refine (readingAll_survives children a 0 before inside).bind fun inner => ?_
    split
    · refine (Setting.readTerms_survives span fun t ht => own _ ?_).bind_left _
      exact List.mem_map_of_mem (List.mem_append_right _ (List.mem_map_of_mem ht))
    · exact (readQuery_survives own _ _).bind_left _

theorem readingAll_survives (ns : List Node) (a : Address) (i before : Nat)
    (h : ∀ e ∈ entriesAll a i ns, ∀ name ∈ e.2.names, s.resolver.Keeps excused r' name) :
    Survives excused (readingAll s removed ns before)
      (readingAll { s with resolver := r' } removed ns before) := by
  match ns with
  | [] => exact .refl _
  | n :: ns =>
    rw [entriesAll, List.forall_mem_append] at h
    rw [readingAll, readingAll]
    refine (reading_survives n (i :: a) before h.1).bind fun r => ?_
    exact (readingAll_survives ns a (i + 1) _ h.2).bind_left _

end

end

end Node

theorem Translator.translate_survives {excused : ErrorKind → Prop} (t : Translator)
    (r' : Resolver) (removed : List NodeKind) (tree : ParseTree)
    (h : ∀ name ∈ tree.names, t.resolver.Keeps excused r' name) :
    Survives excused ({ t with handlers := .without removed }.translate tree)
      ({ t with resolver := r', handlers := .without removed }.translate tree) := by
  have read : Survives excused
      (Node.readingAll (t.setting (sourceOf tree)) removed tree.nodes 0)
      (Node.readingAll ({ t with resolver := r' }.setting (sourceOf tree)) removed tree.nodes 0) :=
    Node.readingAll_survives tree.nodes [] 0 0 fun e he name hn =>
      h name (List.mem_flatMap.2 ⟨e, he, hn⟩)
  unfold translate
  rw [translation_eq_map_outcome,
    translation_eq_map_outcome { t with resolver := r' }]
  exact (read.map _).bind_left _

/-! ## Schemas -/

namespace Schema

variable {S S' : Schema}

theorem resolve_congr {name : String} (h : S'.attributes[name]? = S.attributes[name]?)
    (c : Capability) : S'.registry.resolve name c = S.registry.resolve name c := by
  simp only [resolve_eq, h]

theorem keeps_of_declares (h : ∀ a, S.Declares a → S'.Declares a) (name : String) :
    S.registry.resolve.Keeps (· = .unknownAttribute) S'.registry.resolve name := by
  intro c
  cases found : S.attributes[name]? with
  | some type =>
    have kept : S'.attributes[name]? = some type := h ⟨name, type⟩ found
    exact .inl (resolve_congr (kept.trans found.symm) c)
  | none =>
    refine .inr ⟨.unknown name, ?_, rfl⟩
    simp [resolve_eq, found]

/-- A schema that declares all that another declares translates every tree as the other does,
but for the trees with an attribute that the other does not know. Schemas that say the same of
the names in a tree translate it alike. -/
theorem translate_of_declares (S S' : Schema) (type : S'.objectType = S.objectType)
    (converter : Converter) (compiles : String → Bool) (removed : List NodeKind)
    (tree : ParseTree) :
    let translate (schema : Schema) :=
      { schema.translator compiles ⟨schema.objectType⟩ with
        converter, handlers := .without removed }.translate tree
    ((∀ a, S.Declares a → S'.Declares a) →
      (∀ r, translate S = .ok r → translate S' = .ok r) ∧
      ∀ d, translate S = .error d → d.kind ≠ .unknownAttribute → translate S' = .error d) ∧
    ((∀ name ∈ tree.names, S'.attributes[name]? = S.attributes[name]?) →
      translate S' = translate S) := by
  intro translate
  have survives {excused : ErrorKind → Prop}
      (h : ∀ name ∈ tree.names, S.registry.resolve.Keeps excused S'.registry.resolve name) :
      Survives excused (translate S) (translate S') := by
    have same := Translator.translate_survives
      { S.translator compiles ⟨S.objectType⟩ with converter } S'.registry.resolve removed tree h
    simp only [translate, type]
    exact same
  refine ⟨fun grows => ?_, fun agree => ?_⟩
  · have kept := survives fun name _ => keeps_of_declares grows name
    refine ⟨fun r translated => ?_, fun d failed known => ?_⟩
    · rcases kept with same | ⟨d, failed, -⟩
      · rw [same, translated]
      · simp [translated] at failed
    · rcases kept with same | ⟨d', failed', unknown⟩
      · rw [same, failed]
      · rw [failed] at failed'
        cases failed'
        exact absurd unknown known
  · have kept : Survives (fun _ => False) (translate S) (translate S') :=
      survives fun name hn c => .inl (resolve_congr (agree name hn) c)
    rcases kept with same | ⟨_, _, excuse⟩
    · exact same
    · exact excuse.elim

def taller : Schema := ⟨"person", people.attributes.insert "height" .float⟩

/-- A literal that is no number, and behind it a name that only the larger schema knows. -/
def tallTree : ParseTree where
  nodes := [.scope .and [
    { Node.leaf .lessThan "age" with values := [⟨"tall", {}⟩] }, .leaf .has "height"]]

theorem translate_of_declares_taller :
    let translate (schema : Schema) (tree : ParseTree) :=
      { schema.translator (· != "(") ⟨schema.objectType⟩ with
        converter := Literal.convert, handlers := .without [.none] }.translate tree
    (∀ a, people.Declares a → taller.Declares a) ∧
      (∃ r, translate people peopleTree = .ok r ∧ translate taller peopleTree = .ok r) ∧
      (∃ d, translate people tallTree = .error d ∧ d.kind ≠ .unknownAttribute ∧
        translate taller tallTree = .error d) ∧
      (∀ name ∈ peopleTree.names, taller.attributes[name]? = people.attributes[name]?) ∧
      translate taller peopleTree = translate people peopleTree := by
  intro translate
  have grows : ∀ a, people.Declares a → taller.Declares a := by
    rintro ⟨name, type⟩ declared
    have absent : people.attributes["height"]? = none := rfl
    have other : compare "height" name ≠ .eq := by
      rintro same
      obtain rfl : "height" = name := by simpa using same
      simp [Declares, absent] at declared
    rw [Declares, taller, Std.ExtTreeMap.getElem?_insert, if_neg other]
    exact declared
  have agree : ∀ name ∈ peopleTree.names,
      taller.attributes[name]? = people.attributes[name]? := by decide
  have whole := translate_of_declares people taller rfl Literal.convert (· != "(") [.none]
  exact ⟨grows, ⟨_, rfl, ((whole peopleTree).1 grows).1 _ rfl⟩,
    ⟨_, rfl, by decide, ((whole tallTree).1 grows).2 _ rfl (by decide)⟩, agree,
    (whole peopleTree).2 agree⟩

end Schema

end FilterQuery
