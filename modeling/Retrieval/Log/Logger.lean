import Retrieval.Log.Line

/-!
Loggers: they drop messages below their level and write a line for each of the others.
-/

namespace Retrieval.Log

structure Logger where
  /-- The least rank of the messages that are not dropped. -/
  level : Int
  style : Style
  /-- When all messages are written, in seconds since the start of 1970. -/
  created : Value

/-- What a call of a logger writes. -/
structure Method where
  level : Level
  /-- Whether the call may name a colour. -/
  takesColor : Bool := true
  showsException : Bool := false

/-- The calls of a logger by name. -/
def methods : List (String × Method) :=
  [("debug", ⟨.debug, true, false⟩), ("info", ⟨.info, true, false⟩),
    ("warning", ⟨.warning, true, false⟩), ("error", ⟨.error, true, false⟩),
    ("exception", ⟨.error, true, true⟩), ("warn", ⟨.warning, false, false⟩),
    ("critical", ⟨.critical, false, false⟩), ("fatal", ⟨.critical, false, false⟩)]

/-- A call of a logger. -/
structure Call where
  method : String
  text : Value
  args : List Value := []
  color : Option Value := none
  extra : Option Value := none

/-- The ranks that levels have by name. -/
def rankNames : List (String × Int) :=
  [("CRITICAL", 50), ("FATAL", 50), ("ERROR", 40), ("WARN", 30), ("WARNING", 30), ("INFO", 20),
    ("DEBUG", 10), ("NOTSET", 0)]

/-- The rank of a logger that is not given one of its own. -/
def inheritedRank : Int := 30

/-- The rank that a value stands for. -/
def rankOf (v : Value) : Except LineError Int := do
  let rank ←
    match Conversion.exactInteger? v, v.text? with
    | some n, _ => pure n
    | none, some name =>
      match rankNames.lookup name with
      | some n => pure n
      | none => throw (.unknownLevel name)
    | none, none => throw .misuse
  return if rank = 0 then inheritedRank else rank

/-- The extra fields of a call, with its colour. -/
def Call.paintedFields (c : Call) (color : Value) : Except LineError (Entries Value) := do
  let extra := (c.extra.filter Value.isTruthy).getD (.map [])
  let pairs ← extra.pairs.mapError .extra
  return Entries.set colorField color (Value.textEntries pairs)

/-- The extra fields of a call without a colour. -/
def Call.plainFields (c : Call) : Except LineError (Entries Value) :=
  match c.extra.getD .null with
  | .null => .ok []
  | .map es => .ok es
  | v => if v.elements?.any List.isEmpty then .ok [] else .error .misuse

/-- The line that a call writes, if it is not dropped. -/
def Logger.write (l : Logger) (c : Call) : Except LineError (Option String) := do
  match methods.lookup c.method with
  | none => throw .misuse
  | some m =>
    let color := c.color.filter fun _ => m.takesColor
    let painted ← (color.bind Value.orAbsent).mapM c.paintedFields
    if (m.level.rank : Int) < l.level then return none
    else if c.color.isSome && !m.takesColor then throw .misuse
    else
      let extra ←
        match painted with
        | some extra => pure extra
        | none => c.plainFields
      if extra.any fun e => ownFields.contains e.1 then throw .misuse
      else
        some <$> l.style.line l.created ⟨m.level, c.text, c.args, extra, m.showsException⟩

/-- The lines of calls, up to the first that fails. -/
def Logger.writeAll (l : Logger) (cs : List Call) : Except LineError (List String) := do
  return (← cs.mapM l.write).filterMap id

end Retrieval.Log
