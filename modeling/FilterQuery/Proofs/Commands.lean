import FilterQuery.CommandLine
import FilterQuery.Proofs.Completeness

/-!
# Ways to ask for the query

A translation may be asked for its query where it stands, or be given up for the query with
its options; of what is not one query, both tell the same. One command asks in the first way
and only reports, the other in the second way and prints: they end alike on all files, and the
counters that the one reports are the size of the query that the other prints.
-/
namespace FilterQuery

/-- The queries are taken out before the failure is made, which does not look for them. -/
theorem Translation.result_eq_map (t : Translation) :
    t.result = t.rootQuery.map fun q => ⟨q, t.options⟩ := by
  unfold result takeRoots rootQuery
  match t.roots with
  | [q] => rfl
  | [] | _ :: _ :: _ => rfl

theorem Translation.map_query_result (t : Translation) :
    t.result.map (·.query) = t.rootQuery := by
  rw [result_eq_map]
  cases t.rootQuery <;> rfl

namespace Translator

theorem query_eq_bind (t : Translator) (tree : ParseTree) :
    t.query tree = t.translation tree >>= Translation.rootQuery := by
  unfold query translate
  cases t.translation tree with
  | ok done => exact done.map_query_result
  | error d => rfl

/-- Both counters of a translation with one query are the size of that query. -/
theorem counters_eq_nodeCount (t : Translator) (removed : List NodeKind) {tree : ParseTree}
    {done : Translation} {r : ParseResult}
    (translated : { t with handlers := .without removed }.translation tree = .ok done)
    (result : done.result = .ok r) :
    done.encountered = r.query.nodeCount ∧ done.converted = r.query.nodeCount := by
  rw [translation_eq_map_outcome] at translated
  obtain ⟨reading, read, rfl⟩ := Literal.exists_of_map_eq_ok translated
  obtain ⟨q, single, rfl⟩ := Translation.result_eq_ok.1 result
  have weight := (Node.covered_of_readingAll tree.nodes read).2
  have count : q.value.nodeCount = Node.queryCountAll tree.nodes := by
    rw [show reading.queries = [q] from single] at weight
    simpa using weight
  exact ⟨count.symm, count.symm⟩

end Translator

namespace CommandLine

/-- The translation of the tree in one file for the schema in another. -/
def translationOf (file : ReadFile) (schema tree : String) : Except Diagnostic Translation := do
  let s ← loaded (Schema.ofFile file schema)
  let t ← loaded (ParseTree.ofFile file tree)
  (translator s).translation t

/-- What is printed of a result. -/
def Style.print : Style → ParseResult → String
  | .text, r => resultText r
  | .json, r => r.toJson.indented ++ "\n"

section
variable {file : ReadFile} {schema tree : String}

theorem execute_check :
    execute file (.check schema tree) =
      translationOf file schema tree >>= fun done =>
        done.rootQuery.map fun _ => checkText done := by
  simp only [execute, translationOf, bind_assoc]
  refine bind_congr fun s => bind_congr fun t => bind_congr fun done => ?_
  cases done.rootQuery <;> rfl

theorem execute_translate (style : Style) :
    execute file (.translate schema tree style) =
      translationOf file schema tree >>= fun done => done.result.map style.print := by
  simp only [execute, translationOf, Translator.translate, bind_assoc]
  refine bind_congr fun s => bind_congr fun t => bind_congr fun done => ?_
  cases done.result <;> cases style <;> rfl

theorem counters_of_translationOf {done : Translation} {r : ParseResult}
    (h : translationOf file schema tree = .ok done) (result : done.result = .ok r) :
    done.encountered = r.query.nodeCount ∧ done.converted = r.query.nodeCount := by
  obtain ⟨s, -, h⟩ := bind_eq_ok.1 h
  obtain ⟨t, -, h⟩ := bind_eq_ok.1 h
  exact (translator s).counters_eq_nodeCount [] h result

variable {args : List String} {c : Command}

theorem read_eq_ok (h : (read args).toOption = some c) : read args = .ok c := by
  cases reads : read args with
  | ok c' =>
    rw [reads] at h
    exact congrArg Except.ok (Option.some.inj h)
  | error stop =>
    rw [reads] at h
    cases h

theorem run_of_ok {output : String} (reads : read args = .ok c) (h : execute file c = .ok output) :
    run file args = { status := 0, output } := by
  simp only [run, reads, Outcome.ofCommand, h]

theorem run_of_error {d : Diagnostic} (reads : read args = .ok c)
    (h : execute file c = .error d) : run file args = { status := 1, failure := some d } := by
  simp only [run, reads, Outcome.ofCommand, h]

end

/-- Whichever way a translation is asked for its query, it hands over the same one or fails the
same. So on all files, whatever is in them, the command that checks a tree and the one that
translates it end with the same failure; or both succeed, and the counters printed by the one
are the size of the query printed by the other. -/
theorem run_agrees :
    (∀ done : Translation, done.result.map (·.query) = done.rootQuery) ∧
    (∀ (t : Translator) (tree : ParseTree),
      t.query tree = t.translation tree >>= Translation.rootQuery) ∧
    ∀ (file : ReadFile) (schema tree : String) (style : Style) (args args' : List String),
      read args = .ok (.check schema tree) → read args' = .ok (.translate schema tree style) →
        (∃ d, run file args = { status := 1, failure := some d } ∧
          run file args' = { status := 1, failure := some d }) ∨
        ∃ r : ParseResult,
          let n := r.query.nodeCount
          run file args' = { status := 0, output := style.print r } ∧
          run file args =
            { status := 0, output := s!"ok: {n} queries encountered, {n} converted\n" } := by
  refine ⟨Translation.map_query_result, Translator.query_eq_bind, ?_⟩
  intro file schema tree style args args' checks translates
  -- Both commands make the same translation, and only then part.
  cases translated : translationOf file schema tree with
  | error d =>
    have checked : execute file (.check schema tree) = .error d := by
      rw [execute_check, translated]
      rfl
    have printed : execute file (.translate schema tree style) = .error d := by
      rw [execute_translate, translated]
      rfl
    exact .inl ⟨d, run_of_error checks checked, run_of_error translates printed⟩
  | ok done =>
    have checked : execute file (.check schema tree) =
        done.rootQuery.map fun _ => checkText done := by
      rw [execute_check, translated]
      rfl
    have printed : execute file (.translate schema tree style) = done.result.map style.print := by
      rw [execute_translate, translated]
      rfl
    have result := done.result_eq_map
    cases root : done.rootQuery with
    | error d =>
      rw [root] at checked result
      rw [result] at printed
      exact .inl ⟨d, run_of_error checks checked, run_of_error translates printed⟩
    | ok q =>
      rw [root] at checked result
      rw [result] at printed
      obtain ⟨encountered, converted⟩ := counters_of_translationOf translated result
      refine .inr ⟨_, run_of_ok translates printed, ?_⟩
      rw [checkText, encountered, converted] at checked
      exact run_of_ok checks checked

/-- A schema and a tree for it. -/
def someFiles : ReadFile := fun path =>
  if path = "schema" then
    .ok "\x7b\"objectType\": \"person\", \"attributes\": \x7b\"name\": \"string\"\x7d\x7d"
  else if path = "tree" then
    .ok ("\x7b\"nodes\": [\x7b\"kind\": \"not\", \"children\": [" ++
      "\x7b\"kind\": \"has\", \"attribute\": \"name\"\x7d]\x7d]\x7d")
  else .error .missing

theorem run_agrees_someFiles :
    let checking := ["check", "-s", "schema", "tree"]
    let translating := ["translate", "tree", "--schema=schema", "--format", "json"]
    read checking = .ok (.check "schema" "tree") ∧
    read translating = .ok (.translate "schema" "tree" .json) ∧
    ∃ r : ParseResult,
      let n := r.query.nodeCount
      run someFiles translating = { status := 0, output := r.toJson.indented ++ "\n" } ∧
      run someFiles checking =
        { status := 0, output := s!"ok: {n} queries encountered, {n} converted\n" } := by
  intro checking translating
  have checks : read checking = .ok (.check "schema" "tree") := read_eq_ok (by decide +kernel)
  have translates : read translating = .ok (.translate "schema" "tree" .json) :=
    read_eq_ok (by decide +kernel)
  have succeeds : (run someFiles checking).status = 0 := by decide +kernel
  refine ⟨checks, translates, ?_⟩
  rcases run_agrees.2.2 someFiles _ _ _ _ _ checks translates with ⟨d, failed, -⟩ | both
  · simp [failed] at succeeds
  · exact both

end CommandLine

end FilterQuery
