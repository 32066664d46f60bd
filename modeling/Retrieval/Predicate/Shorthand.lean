import Retrieval.Predicate.Operator

/-!
The shorthand for predicates: a mapping from paths to values or to operators with operands, all of
which must hold. The keys `$and` and `$or` take lists of such mappings.
-/

namespace Retrieval.Predicate

/-- The operators of the shorthand. -/
def shorthandOperators : List (String × Comparison) :=
  [("$eq", .equal), ("$ne", .notEqual), ("$gt", .greaterThan), ("$gte", .greaterThanEqual),
    ("$lt", .lessThan), ("$lte", .lessThanEqual), ("$like", .like), ("$in", .containsAny),
    ("$all", .containsAll)]

/-- One operator with its operand. -/
def ofOperator (key operator : String) (operand : Value) : Build Predicate :=
  if operator = "$exists" then comparing (.text key) .isNull (.bool !operand.isTruthy)
  else
    match shorthandOperators.lookup operator with
    | some c => comparing (.text key) c operand
    | none => refuse (.unknownOperator operator key)

/-- The comparisons of one path. -/
def ofOperators (key : String) : List (String × Value) → Build (List Predicate)
  | [] => .ok []
  | (operator, operand) :: rest => do
    let p ← ofOperator key operator operand
    let ps ← ofOperators key rest
    return p :: ps

/-- The connectives of the shorthand. -/
def connectives : List (String × Connective) := [("$and", .and), ("$or", .or)]

/-- A path with what it is compared with. -/
def ofField (key : String) : Value → Build (List Predicate)
  | .map [] => refuse (.emptyOperators key)
  | .map operators => ofOperators key operators
  | .null => do return [← comparing (.text key) .isNull (.bool true)]
  | .seq .frozenSet items => do return [← comparing (.text key) .equal (.seq .frozenSet items)]
  | .seq _ items => do return [← comparing (.text key) .containsAny (.list items)]
  | v => do return [← comparing (.text key) .equal v]

mutual

/-- The predicate of a shorthand mapping. -/
def ofShorthand : Value → Build Predicate
  | .map [] => refuse .emptyFilter
  | .map entries => do joined .and (← ofEntries entries)
  | v => if v.isTruthy then misuse else refuse .emptyFilter

/-- The predicates of the entries of a mapping. -/
def ofEntries : List (String × Value) → Build (List Predicate)
  | [] => .ok []
  | (key, value) :: rest => do
    let ps ← ofEntry key value
    let qs ← ofEntries rest
    return ps ++ qs

/-- The predicates of one entry. -/
def ofEntry (key : String) : Value → Build (List Predicate)
  | .seq kind items =>
    match connectives.lookup key with
    | some c =>
      match kind with
      | .list => do return [← joined c (← ofShorthands items)]
      | .tuple => do return [← joined c (← ofShorthands items)]
      | _ => refuse (.listExpected key)
    | none =>
      if key.startsWith "$" then refuse (.unknownLogical key) else ofField key (.seq kind items)
  | v =>
    match connectives.lookup key with
    | some _ => refuse (.listExpected key)
    | none => if key.startsWith "$" then refuse (.unknownLogical key) else ofField key v

/-- The predicates of a list of mappings. -/
def ofShorthands : List Value → Build (List Predicate)
  | [] => .ok []
  | v :: vs => do
    let p ← ofShorthand v
    let ps ← ofShorthands vs
    return p :: ps

end

/-- What a query may be restricted by: a value in shorthand, an expression of operators, or the
predicate of another such input. -/
inductive Input
  | value (v : Value)
  | expression (e : Expr)
  | normalized (input : Input)

/-- The predicate of an input. An empty mapping asks for nothing. -/
def Input.normalize : Input → Build (Option Predicate)
  | .value (.map []) => .ok none
  | .value (.map entries) => some <$> ofShorthand (.map entries)
  | .value v => refuse (.unsupportedFilter v.kindName)
  | .expression e => do
    match ← e.evaluate with
    | .predicate p => return some p
    | .value _ => refuse .notAPredicate
  | .normalized input => do
    match ← input.normalize with
    | some p => return some p
    | none => refuse (.unsupportedFilter Value.null.kindName)

end Retrieval.Predicate
