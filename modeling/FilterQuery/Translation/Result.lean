import FilterQuery.Translation.Setting

/-!
# The outcome of a translation

What is left when the traversal has ended: the top-level queries, the ordering terms and
the counters. An expression must have exactly one top-level query.
-/
namespace FilterQuery

structure Translation where
  roots : List (Spanned Query)
  orders : List Order
  encountered : Nat
  converted : Nat
  source : Option Source

namespace Translation

/-- From the start of the first to the end of the last of the spans. -/
def hull (qs : List (Spanned Query)) : Span :=
  match qs.head?, qs.getLast? with
  | some first, some last => ⟨first.span.start, last.span.stop⟩
  | _, _ => {}

/-- What is reported of top-level queries that are not one. -/
def arityError (t : Translation) (qs : List (Spanned Query)) : Diagnostic :=
  (Failure.rootCount qs.length).report t.source (hull qs) (queryLabels qs)

/-- The single top-level query. -/
def rootQuery (t : Translation) : Except Diagnostic Query :=
  match t.roots with
  | [q] => .ok q.value
  | qs => .error (t.arityError qs)

def options (t : Translation) : Options := .ofOrders t.orders

/-- The top-level queries, and the translation without them. -/
def takeRoots (t : Translation) : List (Spanned Query) × Translation :=
  (t.roots, { t with roots := [] })

/-- The query together with its options. -/
def result (t : Translation) : Except Diagnostic ParseResult :=
  match t.takeRoots with
  | ([q], _) => .ok ⟨q.value, t.options⟩
  | (qs, rest) => .error (rest.arityError qs)

theorem rootQuery_eq_ok {t : Translation} {q : Query} :
    t.rootQuery = .ok q ↔ ∃ span, t.roots = [⟨q, span⟩] := by
  unfold rootQuery
  match t.roots with
  | [] => simp
  | [⟨q', span⟩] => simp
  | _ :: _ :: _ => simp

theorem result_eq_ok {t : Translation} {r : ParseResult} :
    t.result = .ok r ↔ ∃ q, t.roots = [q] ∧ r = ⟨q.value, t.options⟩ := by
  unfold result takeRoots
  match t.roots with
  | [] => simp
  | [q] => simp [eq_comm]
  | _ :: _ :: _ => simp

end Translation

end FilterQuery
