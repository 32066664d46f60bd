import Retrieval.Predicate.Basic
import Retrieval.Value.Display

/-!
The constructors of predicates, and expressions made of them. A comparison is checked when it is
made: its value holds no mapping and no infinite number, and a list holds values of one family.
-/

namespace Retrieval.Predicate

mutual

/-- The value of a comparison: sequences become tuples, dates their text. -/
def frozen : Value → Build Value
  | .seq _ items => do return .seq .tuple (← frozenItems items)
  | .date d => .ok (.text d.iso)
  | .dateTime t => .ok (.text t.iso)
  | .float x => if Number.isFinite x then .ok (.float x) else refuse (.notFinite (Number.plain x))
  | .map _ => refuse .mappingOperand
  | v => .ok v

def frozenItems : List Value → Build (List Value)
  | [] => .ok []
  | v :: vs => do
    let x ← frozen v
    let xs ← frozenItems vs
    return x :: xs

end

/-- The families of values that a list may not mix. -/
inductive Family
  | boolean
  | number
  | text
  deriving DecidableEq, Repr

def Family.name : Family → String
  | .boolean => "boolean"
  | .number => "number"
  | .text => "text"

/-- The family of a value; what is neither a boolean nor a number counts as text. -/
def family : Value → Family
  | .bool _ => .boolean
  | .int _ => .number
  | .float _ => .number
  | _ => .text

/-- The families of some values, each once, in the order of their names. -/
def familiesOf (vs : List Value) : List Family :=
  [.boolean, .number, .text].filter fun f => vs.any fun v => family v = f

/-- Refuses a list of several families. -/
def checkFamilies (path : Value) : Value → Build Unit
  | .seq _ items =>
    let fs := familiesOf items
    if fs.length > 1 then refuse (.mixedList path.display (fs.map Family.name)) else .ok ()
  | _ => .ok ()

/-- One comparison of the field at a path with a value. -/
def comparing (path : Value) (comparison : Comparison) (value : Value) : Build Predicate := do
  let value ← frozen value
  checkFamilies path value
  let path ← pathOf path
  return .leaf path comparison value

/-- A comparison with each element of a value. -/
def comparingElements (path : Value) (comparison : Comparison) (values : Value) :
    Build Predicate :=
  match values.elements? with
  | some vs => comparing path comparison (.list vs)
  | none => misuse

/-- Predicates joined by a connective; a single one stands for itself. -/
def joined (connective : Connective) : List Predicate → Build Predicate
  | [] => refuse (.noOperands connective.name)
  | [p] => .ok p
  | ps => .ok (.group connective ps)

/-- What an expression can come to: a predicate, or some other value. -/
inductive Term
  | predicate (p : Predicate)
  | value (v : Value)

/-- Joins terms, all of which must be predicates. -/
def joinedTerms (connective : Connective) (terms : List Term) : Build Predicate :=
  if terms.isEmpty then refuse (.noOperands connective.name)
  else
    let check : Term → Build Predicate
      | .predicate p => .ok p
      | .value v => refuse (.operandKind connective.name v.kindName)
    do joined connective (← terms.mapM check)

/-- An expression of operators applied to values. -/
inductive Expr
  | apply (operator : String) (args : List Value)
  | join (connective : Connective) (operands : List Expr)
  | value (v : Value)

/-- The comparisons that take a path and a value as they are. -/
def plainOperators : List (String × Comparison) :=
  [("Equal", .equal), ("NotEqual", .notEqual), ("GreaterThan", .greaterThan),
    ("GreaterThanEqual", .greaterThanEqual), ("LessThan", .lessThan),
    ("LessThanEqual", .lessThanEqual), ("Like", .like)]

/-- The comparisons that take a path and the elements of a value. -/
def elementOperators : List (String × Comparison) :=
  [("ContainsAny", .containsAny), ("ContainsAll", .containsAll)]

/-- Applies an operator by its name. -/
def applied (operator : String) (args : List Value) : Build Predicate :=
  match plainOperators.lookup operator, elementOperators.lookup operator, args with
  | some c, _, [path, value] => comparing path c value
  | _, some c, [path, values] => comparingElements path c values
  | none, none, [path] =>
    if operator = "Exists" then comparing path .isNull (.bool false)
    else if operator = "IsNull" then comparing path .isNull (.bool true)
    else misuse
  | none, none, [path, flag] =>
    if operator = "IsNull" then comparing path .isNull (.bool flag.isTruthy) else misuse
  | _, _, _ => misuse

mutual

/-- The term that an expression comes to. -/
def Expr.evaluate : Expr → Build Term
  | .apply operator args => return .predicate (← applied operator args)
  | .join connective operands => do
    return .predicate (← joinedTerms connective (← evaluateAll operands))
  | .value v => .ok (.value v)

def evaluateAll : List Expr → Build (List Term)
  | [] => .ok []
  | e :: es => do
    let t ← e.evaluate
    let ts ← evaluateAll es
    return t :: ts

end

end Retrieval.Predicate
