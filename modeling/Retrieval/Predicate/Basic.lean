import Retrieval.Error.Configuration

/-!
Predicates on records: comparisons of a field with a value, joined by conjunctions and
disjunctions. Main statements: conjunction is associative with the absent predicate as its unit, and
the leaves of a conjunction are those of its sides.
-/

namespace Retrieval

inductive Comparison
  | equal
  | notEqual
  | greaterThan
  | greaterThanEqual
  | lessThan
  | lessThanEqual
  | like
  | containsAny
  | containsAll
  | isNull
  deriving DecidableEq, Repr

def Comparison.name : Comparison → String
  | .equal => "Equal"
  | .notEqual => "NotEqual"
  | .greaterThan => "GreaterThan"
  | .greaterThanEqual => "GreaterThanEqual"
  | .lessThan => "LessThan"
  | .lessThanEqual => "LessThanEqual"
  | .like => "Like"
  | .containsAny => "ContainsAny"
  | .containsAll => "ContainsAll"
  | .isNull => "IsNull"

inductive Connective
  | and
  | or
  deriving DecidableEq, Repr

def Connective.name : Connective → String
  | .and => "And"
  | .or => "Or"

inductive Predicate
  | leaf (path : FieldPath) (comparison : Comparison) (value : Value)
  | group (connective : Connective) (operands : List Predicate)
  deriving Repr

namespace Predicate

/-- The operands of a predicate seen as a conjunction. -/
def conjuncts : Predicate → List Predicate
  | .group .and operands => operands
  | p => [p]

/-- Both predicates at once; an absent one asks for nothing. -/
def both : Option Predicate → Option Predicate → Option Predicate
  | none, right => right
  | left, none => left
  | some p, some q => some (.group .and (p.conjuncts ++ q.conjuncts))

mutual

/-- The comparisons of a predicate, from left to right. -/
def leaves : Predicate → List (FieldPath × Comparison × Value)
  | .leaf path comparison value => [(path, comparison, value)]
  | .group _ operands => leavesOf operands

def leavesOf : List Predicate → List (FieldPath × Comparison × Value)
  | [] => []
  | p :: ps => leaves p ++ leavesOf ps

end

/-- The comparisons of a predicate that may be absent. -/
def leavesIn : Option Predicate → List (FieldPath × Comparison × Value)
  | none => []
  | some p => p.leaves

@[simp] theorem both_none_left (q : Option Predicate) : both none q = q := rfl

@[simp] theorem both_none_right (p : Option Predicate) : both p none = p := by cases p <;> rfl

@[simp] theorem leavesOf_append (ps qs : List Predicate) :
    leavesOf (ps ++ qs) = leavesOf ps ++ leavesOf qs := by
  induction ps with
  | nil => rfl
  | cons p ps ih => simp [leavesOf, ih]

@[simp] theorem leavesOf_conjuncts (p : Predicate) : leavesOf p.conjuncts = p.leaves := by
  cases p with
  | leaf => simp [conjuncts, leavesOf]
  | group c ps => cases c <;> simp [conjuncts, leaves, leavesOf]

theorem both_assoc (p q r : Option Predicate) : both (both p q) r = both p (both q r) := by
  cases p <;> cases q <;> cases r <;> simp [both, conjuncts]

theorem leavesIn_both (p q : Option Predicate) :
    leavesIn (both p q) = leavesIn p ++ leavesIn q := by
  cases p <;> cases q <;> simp [both, leavesIn, leaves]

end Predicate

end Retrieval
