import FilterQuery.Regex.Expression

/-!
# How deep expressions nest

Groups, repetitions, brackets, sequences and choices are levels; single characters, flags
and what is left empty are none.
-/
namespace FilterQuery.Regex

mutual

def ClassSet.depth : ClassSet → Nat
  | .bracket _ inner => inner.depth + 1
  | .union [] => 0
  | .union items => ClassSet.depths items + 1
  | .op _ left right => max left.depth right.depth + 1
  | _ => 0

def ClassSet.depths : List ClassSet → Nat
  | [] => 0
  | c :: cs => max c.depth (ClassSet.depths cs)

end

mutual

def Expression.depth : Expression → Nat
  | .bracket _ inner => inner.depth + 1
  | .repetition _ _ _ e | .group _ _ e => e.depth + 1
  | .alternation es | .concat es => Expression.depths es + 1
  | _ => 0

def Expression.depths : List Expression → Nat
  | [] => 0
  | e :: es => max e.depth (Expression.depths es)

end

/-- The levels that an expression may have. -/
def depthLimit : Nat := 250

end FilterQuery.Regex
