import FilterQuery.Proofs.Declarations
import FilterQuery.Proofs.Json.Mirror
import Mathlib.Data.List.TakeWhile

/-!
# Schemas survive JSON

A schema that names an object type, whatever its attributes are called, is read back from its
compact JSON text as it was. Whatever schema is read from a text names an object type, and
the text has no field but the two of a schema. The registry of a schema lists the declared
names in the order of their bytes, and resolves a name to what the schema declares.
-/
namespace FilterQuery

open Json

/-! ## Blank texts -/

theorem Text.trimChars_eq_nil_iff {s : List Char} :
    trimChars s = [] ↔ ∀ c ∈ s, isBlank c := by
  have parts := List.takeWhile_append_dropWhile (p := isBlank) (l := s)
  have front : ∀ c ∈ s.takeWhile isBlank, isBlank c := fun c hc => List.mem_takeWhile_imp hc
  rw [trimChars, List.reverse_eq_nil_iff, dropBlank, List.dropWhile_eq_nil_iff]
  simp only [List.mem_reverse, dropBlank]
  refine ⟨fun h c hc => ?_, fun h c hc => h c ((List.dropWhile_sublist _).subset hc)⟩
  rw [← parts, List.mem_append] at hc
  exact hc.elim (front c) (h c)

namespace Schema

variable {s : Schema}

/-- The object type has a character that is not blank. -/
def NamesObjects (s : Schema) : Prop := ∃ c ∈ s.objectType.toList, Text.isBlank c = false

theorem isBlank_eq_false_iff : s.isBlank = false ↔ s.NamesObjects := by
  rw [isBlank, List.isEmpty_eq_false_iff, ne_eq, Text.trimChars_eq_nil_iff]
  simp [NamesObjects]

/-! ## Writing and reading back -/

@[simp] theorem typeOf_keyword (t : ValueType) : typeOf t.keyword = .ok t := by simp [typeOf]

theorem keyword_of_typeOf {k : String} {t : ValueType} (h : typeOf k = .ok t) :
    k = t.keyword := by
  unfold typeOf at h
  split at h
  next u found =>
    cases h
    have same : t.keyword = k := by simpa using List.find?_some found
    exact same.symm
  next => cases h

theorem ofEntries_eq (ts : List (String × ValueType)) :
    ofEntries ts = (Registry.ofList ts).types := by
  have same (r : Registry) :
      (ts.foldl (fun r t => r.register t.1 t.2) r).types =
        ts.foldl (fun m t => m.insert t.1 t.2) r.types :=
    (List.foldl_hom Registry.types fun r t => (r.types_register t.1 t.2).symm).symm
  exact (same ∅).symm

theorem ofEntries_toList (s : Schema) : ofEntries s.attributes.toList = s.attributes := by
  rw [ofEntries_eq, ← registry, types_registry]

theorem exact_toJson (s : Schema) : s.toJson.Exact := by
  refine ⟨trivial, exactMembers_iff.2 fun m hm => ?_, trivial⟩
  obtain ⟨t, -, rfl⟩ := List.mem_map.1 hm
  trivial

theorem yields_decoder (s : Schema) (depth : Nat) : Yields (decoder (depth + 2)) s.toJson s := by
  have attributes : Yields (Decoder.entries (.variant typeOf) (depth + 1))
      (.object (s.attributes.toList.map fun t => (t.1, .string t.2.keyword)))
      s.attributes.toList :=
    yields_entries (f := fun t => .string t.keyword) fun t _ =>
      yields_variant (typeOf_keyword t.2)
  have fills : (record (depth + 1)).Fills {} [("objectType", .string s.objectType),
      ("attributes", .object (s.attributes.toList.map fun t => (t.1, .string t.2.keyword)))]
      ⟨some s.objectType, s.attributes⟩ :=
    .cons ((yields_string s.objectType).bind rfl)
      (.cons (attributes.bind (by rw [ofEntries_toList]; rfl)) .nil)
  exact Record.yields_decoder fills (List.Sublist.refl _) (by simp [record, form]) rfl

/-- The text of a schema is that of an object. -/
theorem describes_compact_toJson (s : Schema) :
    ∃ start members, (Outline.object start members).Describes (compact s.toJson).toList := by
  have made : Outline.ofText (compact s.toJson).toList = s.toJson.outline [] := by
    rw [compact, String.toList_ofList, ofText_compactChars s.exact_toJson]
  have stops : (Outline.ofText (compact s.toJson).toList).stop? = some [] := by
    rw [made, stop?_outline]
  have describes := describes_ofText stops rfl
  rw [made, toJson, outline] at describes
  exact ⟨_, _, describes⟩

theorem ofText_compact (h : s.NamesObjects) : ofText .json (compact s.toJson) = .ok s := by
  have read : decode decoder (compact s.toJson) = .ok s :=
    decode_compact s.exact_toJson (s.yields_decoder _)
  rw [ofText, read]
  change s.validated = _
  rw [validated, isBlank_eq_false_iff.2 h]
  rfl

/-! ## What is accepted -/

/-- The schema stands in the value. Of the entries of one name the last one counts. -/
def Mirrors (o : Outline) (s : Schema) : Prop :=
  ∃ es, form.Lists o es ∧ Holds IsString none es "objectType" s.objectType ∧
    Holds (fun v m => ∃ ts, Mapped (fun w t => IsName w t.keyword) v ts ∧ m = ofEntries ts)
      (some ∅) es "attributes" s.attributes

theorem set_frame {depth : Nat} {d d' : Draft} {k : String} {v : Outline}
    (known : k ∈ form.fields) (h : (record depth).set d k v = .ok d') :
    (k ≠ "objectType" → d'.objectType = d.objectType) ∧
    (k ≠ "attributes" → d'.attributes = d.attributes) := by
  simp only [form, List.mem_cons, List.not_mem_nil, or_false] at known
  rcases known with rfl | rfl <;>
    (obtain ⟨x, -, h⟩ := bind_eq_ok.1 h; cases h; simp)

theorem mirrors_of_decoder {depth : Nat} {o : Outline} (h : decoder depth o = .ok s) :
    s.Mirrors o := by
  obtain ⟨depth, es, d, lists, once, sets, finished⟩ :=
    Record.decoder_eq_ok (fun _ => by simp [record, form]) h
  have type : Holds (Found IsString) (some none) es "objectType" d.objectType :=
    sets.holds_read (p := Draft.objectType) (by simp [record, form]) (fun _ _ => rfl)
      (fun _ read => ⟨_, rfl, Decoder.isString_of_string read⟩)
      (fun known other h => (set_frame known h).1 other) once
  have attributes : Holds
      (fun v m => ∃ ts, Mapped (fun w t => IsName w t.keyword) v ts ∧ m = ofEntries ts)
      (some ∅) es "attributes" d.attributes := by
    refine sets.holds_read (p := Draft.attributes) (by simp [record, form]) (fun _ _ => rfl)
      (fun _ read => ⟨_, Decoder.mapped_of_entries (fun named => ?_) read, rfl⟩)
      (fun known other h => (set_frame known h).2 other) once
    obtain ⟨k, name, found⟩ := Decoder.isName_of_variant named
    rwa [keyword_of_typeOf found] at name
  obtain ⟨t, m⟩ := d
  cases t <;> cases finished
  exact ⟨es, lists, type.required, attributes⟩

theorem Mirrors.exists_stop {o : Outline} (h : s.Mirrors o) : ∃ stop, o.stop? = some stop :=
  let ⟨_, lists, _⟩ := h
  lists.exists_stop

/-- The members of an object that a schema is read from have the names of its two fields. -/
theorem Mirrors.fields {start : Rest} {members : Members} (h : s.Mirrors (.object start members)) :
    ∃ es, members.list? = some es ∧ ∀ e ∈ es, e.1 = "objectType" ∨ e.1 = "attributes" := by
  obtain ⟨es, lists, -⟩ := h
  cases lists with
  | object read known => exact ⟨es, read, fun e he => by simpa [form] using known rfl e he⟩

theorem ofText_eq_ok {text : String} (h : ofText .json text = .ok s) :
    s.NamesObjects ∧ ∃ o : Outline, s.Mirrors o ∧ o.Describes text.toList := by
  obtain ⟨s', decoded, h⟩ := bind_eq_ok.1 h
  -- The check hands the schema through unchanged, so what was decoded is what is accepted.
  have valid : s'.validated = .ok s := h
  unfold validated at valid
  split at valid
  next => cases valid
  next named =>
    cases valid
    refine ⟨isBlank_eq_false_iff.1 (by simpa using named), ?_⟩
    obtain ⟨depth, o, made, describes⟩ :=
      exists_describes_of_decode (fun h => (mirrors_of_decoder h).exists_stop)
        (mapError_eq_ok.1 decoded)
    exact ⟨o, mirrors_of_decoder made, describes⟩

/-! ## Texts and registry -/

/-- A schema that names an object type survives JSON; what is read from a text names one, and
the text, whose outline the schema mirrors, has no field but the two of a schema; the
registry lists the declared names, each once, in the order of their bytes, and resolves a name
as it is declared. -/
theorem survives_json_and_builds_registry (s : Schema) :
    (s.NamesObjects → ofText .json (compact s.toJson) = .ok s) ∧
    (∀ text, ofText .json text = .ok s → s.NamesObjects ∧
      ∃ o : Outline, (∀ o' : Outline, o'.Describes text.toList ↔ o' = o) ∧ s.Mirrors o ∧
        ∀ start members, o = .object start members →
          ∃ es, members.list? = some es ∧ ∀ e ∈ es, e.1 = "objectType" ∨ e.1 = "attributes") ∧
    (s.registry.names.Pairwise (fun a b => Text.bytes a < Text.bytes b) ∧
      ∀ n, n ∈ s.registry.names ↔ ∃ t, s.attributes[n]? = some t) ∧
    ∀ n c,
      (∀ a, s.registry.resolve n c = .ok a ↔
        a.name = n ∧ s.attributes[n]? = some a.valueType ∧ a.valueType.supports c) ∧
      (s.registry.resolve n c = .error (.unknown n) ↔ s.attributes[n]? = none) ∧
      ∀ t, s.registry.resolve n c = .error (.capabilityMismatch n t c) ↔
        s.attributes[n]? = some t ∧ ¬ t.supports c := by
  refine ⟨ofText_compact, fun text h => ?_,
    ⟨s.names_registry_ascending, fun n => mem_names_registry⟩, fun n c => ⟨fun a => ?_,
      resolve_eq_unknown_iff, fun t => resolve_eq_mismatch_iff⟩⟩
  · obtain ⟨named, o, mirrors, describes⟩ := ofText_eq_ok h
    refine ⟨named, o, fun o' => ⟨fun other => other.unique describes, ?_⟩, mirrors, ?_⟩
    · rintro rfl
      exact describes
    · rintro start members rfl
      exact mirrors.fields
  · rw [resolve_eq_ok_iff]
    refine and_congr_right fun same => ?_
    rw [Declares, same]

/-- Names that are empty, need escapes, or would stand elsewhere in the order of UTF-16. -/
def strangeNames : Schema where
  objectType := " \t\"Box\" "
  attributes := ofEntries [("\uffff", .bool), ("\x00\\\"", .integer), ("é", .float), ("z", .bool),
    ("", .string), ("😀", .integer), ("z", .string)]

theorem attributes_strangeNames :
    strangeNames.attributes["z"]? = some .string ∧ strangeNames.attributes["é"]? = some .float ∧
      strangeNames.attributes["Z"]? = none := by
  simp [strangeNames, ofEntries, Std.ExtTreeMap.getElem_insert]

theorem survives_json_and_builds_registry_strangeNames :
    strangeNames.NamesObjects ∧
    ofText .json (compact strangeNames.toJson) = .ok strangeNames ∧
    (∃ start members es,
      (Outline.object start members).Describes (compact strangeNames.toJson).toList ∧
        members.list? = some es ∧ ∀ e ∈ es, e.1 = "objectType" ∨ e.1 = "attributes") ∧
    "z" ∈ strangeNames.registry.names ∧
    strangeNames.registry.resolve "z" .text = .ok ⟨"z", .string⟩ ∧
    strangeNames.registry.resolve "Z" .ordered = .error (.unknown "Z") ∧
    strangeNames.registry.resolve "é" .text = .error (.capabilityMismatch "é" .float .text) := by
  obtain ⟨z, é, Z⟩ := attributes_strangeNames
  have named : strangeNames.NamesObjects := ⟨'B', by decide, by decide⟩
  obtain ⟨reads, accepted, ⟨-, listed⟩, resolves⟩ :=
    survives_json_and_builds_registry strangeNames
  obtain ⟨-, o, outlines, -, fields⟩ := accepted _ (reads named)
  obtain ⟨start, members, describes⟩ := strangeNames.describes_compact_toJson
  obtain ⟨es, list, known⟩ := fields start members ((outlines _).1 describes).symm
  exact ⟨named, reads named, ⟨start, members, es, describes, list, known⟩, (listed "z").2 ⟨_, z⟩,
    ((resolves "z" .text).1 _).2 ⟨rfl, z, by decide⟩, (resolves "Z" .ordered).2.1.2 Z,
    ((resolves "é" .text).2.2 _).2 ⟨é, by decide⟩⟩

end Schema

end FilterQuery
