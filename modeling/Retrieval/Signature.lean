import Retrieval.Value.Basic

/-!
Arguments given by place and by name, and the parameters that they are bound to.
-/

namespace Retrieval

/-- The arguments of a call. -/
structure Arguments where
  positional : List Value := []
  named : Entries Value := []

/-- The parameters of a call with their defaults. An open call takes other names as options. -/
structure Signature where
  parameters : List (String × Option Value)
  isOpen : Bool := false

namespace Signature

/-- A parameter without a default. -/
def needed (name : String) : String × Option Value := (name, none)

/-- A parameter that may be left out. -/
def nullable (name : String) : String × Option Value := (name, some .null)

/-- A name that no argument may have. -/
def receiver : String := "self"

/-- The value of each parameter that has no positional argument. -/
def fill (named : Entries Value) : List (String × Option Value) → Option (List Value)
  | [] => some []
  | (name, fallback) :: rest => do
    let v ← (Entries.get? name named).or fallback
    return v :: (← fill named rest)

/-- The values of the parameters and the options; nothing if the arguments do not fit. -/
def bind (s : Signature) (a : Arguments) : Option (List Value × Entries Value) := do
  let taken := s.parameters.take a.positional.length
  let names := s.parameters.map (·.1)
  let options := a.named.filter fun e => !names.contains e.1
  if s.parameters.length < a.positional.length then none
  if taken.any fun p => Entries.contains p.1 a.named then none
  if Entries.contains receiver a.named then none
  if !s.isOpen && !options.isEmpty then none
  let rest ← fill a.named (s.parameters.drop a.positional.length)
  return (a.positional ++ rest, options)

/-- The values of the parameters, all arguments being given by name. -/
def values? (s : Signature) (named : Entries Value) : Option (List Value) :=
  (s.bind { named }).map (·.1)

end Signature

end Retrieval
