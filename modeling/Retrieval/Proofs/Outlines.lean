import Retrieval.Proofs.Lexemes

/-!
The outline of a document: its fields with their aliases, the names of their arguments and the
fields selected below them. It is read lexeme by lexeme with a stack of what is open. Main
statement: every bracket of a document that has an outline is closed by its own kind.
-/

namespace Retrieval.Document

/-- A field without what is selected below it. -/
structure Head where
  alias? : Option String := none
  name : String
  arguments : List String := []
  deriving DecidableEq, Repr

/-- A field of an outline. -/
inductive Shape
  | field (head : Head) (selection : List Shape)
  deriving Repr

/-- What is expected inside the brackets of an argument: the items of a list, or a key, the colon
behind it, or the value behind that. -/
inductive Frame
  | list
  | key
  | colon
  | value
  deriving DecidableEq, Repr

/-- What is expected after a value; nothing where no value may stand. -/
def Frame.after? : Frame → Option Frame
  | .list => some .list
  | .value => some .key
  | _ => none

/-- The fields of a selection are kept last first. The selections around the innermost one are kept
with the field that it belongs to. -/
inductive State
  | start
  | fields (outer : List (Head × List Shape)) (here : List Shape)
  | aliased (outer : List (Head × List Shape)) (here : List Shape) (name : String)
  | arguments (outer : List (Head × List Shape)) (here : List Shape) (head : Head)
      (names : List String) (frames : List Frame)
  | finished (fields : List Shape)

/-- A lexeme among fields. -/
def fieldStep (outer : List (Head × List Shape)) (here : List Shape) : Lexeme → Option State
  | .name name => some (.fields outer (.field { name } [] :: here))
  | .mark ':' =>
    match here with
    | .field ⟨none, name, []⟩ [] :: before => some (.aliased outer before name)
    | _ => none
  | .mark '(' =>
    match here with
    | .field ⟨alias?, name, []⟩ [] :: before =>
      some (.arguments outer before ⟨alias?, name, []⟩ [] [.key])
    | _ => none
  | .mark '\x7b' =>
    match here with
    | .field head [] :: before => some (.fields ((head, before) :: outer) [])
    | _ => none
  | .mark '\x7d' =>
    match here, outer with
    | [], _ => none
    | _, [] => some (.finished here.reverse)
    | _, (head, before) :: rest => some (.fields rest (.field head here.reverse :: before))
  | _ => none

/-- A lexeme inside arguments: the names of the arguments, and what is open inside them. -/
def argumentStep (names : List String) : List Frame → Lexeme → Option (List String × List Frame)
  | [], _ => none
  | .key :: frames, .name name =>
    some (if frames.isEmpty then names ++ [name] else names, .colon :: frames)
  | .colon :: frames, .mark ':' => some (names, .value :: frames)
  | .list :: outer :: frames, .mark ']' => some (names, outer :: frames)
  | .key :: outer :: frames, .mark '\x7d' => some (names, outer :: frames)
  | frame :: frames, .mark c => do
    let after ← frame.after?
    if c = '[' then some (names, .list :: after :: frames)
    else if c = '\x7b' then some (names, .key :: after :: frames)
    else none
  | frame :: frames, _ => do
    let after ← frame.after?
    some (names, after :: frames)

/-- Takes one lexeme. -/
def State.step : State → Lexeme → Option State
  | .start, l => if l = .mark '\x7b' then some (.fields [] []) else none
  | .fields outer here, l => fieldStep outer here l
  | .aliased outer here name, .name target =>
    some (.fields outer (.field ⟨some name, target, []⟩ [] :: here))
  | .arguments outer here head names frames, l =>
    if l = .mark ')' then
      if frames = [.key] ∧ names ≠ [] then
        some (.fields outer (.field { head with arguments := names } [] :: here))
      else none
    else (argumentStep names frames l).map fun (names, frames) =>
      .arguments outer here head names frames
  | _, _ => none

/-- Takes lexemes one after another. -/
def run (s : State) (ls : List Lexeme) : Option State := ls.foldlM State.step s

/-- The fields of a document; nothing if it is none. -/
def outline (text : String) : Option (List Shape) := do
  let ls ← lex text.toList
  match ← run .start ls with
  | .finished fields => some fields
  | _ => none

@[simp] theorem run_nil (s : State) : run s [] = some s := rfl

@[simp] theorem run_cons (s : State) (l : Lexeme) (ls : List Lexeme) :
    run s (l :: ls) = (s.step l).bind (run · ls) := by
  simp [run]

theorem run_append (s : State) (ls ms : List Lexeme) :
    run s (ls ++ ms) = (run s ls).bind (run · ms) := by
  simp [run]

/-- The bracket that closes another. -/
def closer? : Char → Option Char
  | '\x7b' => some '\x7d'
  | '(' => some ')'
  | '[' => some ']'
  | _ => none

/-- Takes one lexeme; what is kept are the brackets that are still to come, innermost first. -/
def bracketStep (pending : List Char) : Lexeme → Option (List Char)
  | .mark c =>
    match closer? c with
    | some d => some (d :: pending)
    | none =>
      if c = ':' then some pending
      else if pending.head? = some c then some pending.tail
      else none
  | _ => some pending

/-- Every bracket is closed by its own kind, the innermost first. -/
def IsBalanced (ls : List Lexeme) : Prop := ls.foldlM bracketStep [] = some []

def Frame.closer : Frame → Char
  | .list => ']'
  | _ => '\x7d'

/-- The brackets that close the frames inside parentheses, and the parentheses. -/
def pendingFrames : List Frame → List Char
  | [] => []
  | [_] => [')']
  | frame :: frames => frame.closer :: pendingFrames frames

/-- The brackets that are still to come in a state. -/
def State.pending : State → List Char
  | .start => []
  | .fields outer _ => '\x7d' :: outer.map fun _ => '\x7d'
  | .aliased outer _ _ => '\x7d' :: outer.map fun _ => '\x7d'
  | .arguments outer _ _ _ frames => pendingFrames frames ++ '\x7d' :: outer.map fun _ => '\x7d'
  | .finished _ => []

theorem pending_fieldStep {outer : List (Head × List Shape)} {here : List Shape} {l : Lexeme}
    {s : State} (h : fieldStep outer here l = some s) :
    bracketStep (State.fields outer here).pending l = some s.pending := by
  unfold fieldStep at h
  split at h
  · cases h
    rfl
  · split at h <;> cases h
    rfl
  · split at h <;> cases h
    rfl
  · split at h <;> cases h
    rfl
  · split at h <;> cases h
    · rfl
    · rfl
  · cases h

theorem pendingFrames_after {frame after : Frame} (h : frame.after? = some after)
    (frames : List Frame) : pendingFrames (after :: frames) = pendingFrames (frame :: frames) := by
  cases frames with
  | nil => rfl
  | cons outer frames =>
    cases frame <;> cases h <;> rfl

theorem pending_argumentStep {names names' : List String} {frames frames' : List Frame} {l : Lexeme}
    (h : argumentStep names frames l = some (names', frames')) (rest : List Char) :
    bracketStep (pendingFrames frames ++ rest) l = some (pendingFrames frames' ++ rest) := by
  unfold argumentStep at h
  split at h
  · cases h
  · cases h
    next frames _ => cases frames <;> rfl
  · cases h
    next frames => cases frames <;> rfl
  · cases h
    rfl
  · cases h
    rfl
  · next frame frames c _ _ _ =>
    obtain ⟨after, hafter, hopen⟩ := Option.bind_eq_some_iff.mp h
    split at hopen
    · next hc =>
      cases hopen
      subst hc
      simp [bracketStep, closer?, pendingFrames, Frame.closer, pendingFrames_after hafter]
    · split at hopen
      · next hc =>
        cases hopen
        subst hc
        simp [bracketStep, closer?, pendingFrames, Frame.closer, pendingFrames_after hafter]
      · cases hopen
  · obtain ⟨after, hafter, hsame⟩ := Option.bind_eq_some_iff.mp h
    cases hsame
    rw [pendingFrames_after hafter]
    cases l with
    | mark c => simp_all
    | _ => rfl

/-- One lexeme changes what is still to come as brackets do. -/
theorem pending_step {s s' : State} {l : Lexeme} (h : s.step l = some s') :
    bracketStep s.pending l = some s'.pending := by
  unfold State.step at h
  split at h
  · split at h
    · next hl =>
      cases h
      subst hl
      rfl
    · cases h
  · exact pending_fieldStep h
  · cases h
    rfl
  · split at h
    · next hl =>
      subst hl
      split at h
      · next hframes =>
        cases h
        rw [hframes.1]
        rfl
      · cases h
    · obtain ⟨⟨names', frames'⟩, hstep, hs⟩ := Option.map_eq_some_iff.mp h
      cases hs
      exact pending_argumentStep hstep _
  · cases h

theorem pending_run {s s' : State} {ls : List Lexeme} (h : run s ls = some s') :
    ls.foldlM bracketStep s.pending = some s'.pending := by
  induction ls generalizing s with
  | nil =>
    cases h
    rfl
  | cons l ls ih =>
    rw [run_cons] at h
    obtain ⟨next, hnext, hrest⟩ := Option.bind_eq_some_iff.mp h
    rw [List.foldlM_cons, pending_step hnext]
    exact ih hrest

/-- What has an outline has balanced brackets. -/
theorem isBalanced_of_outline {text : String} {shapes : List Shape}
    (h : outline text = some shapes) : ∃ ls, lex text.toList = some ls ∧ IsBalanced ls := by
  obtain ⟨ls, hls, hrest⟩ := Option.bind_eq_some_iff.mp h
  obtain ⟨s, hrun, hfinished⟩ := Option.bind_eq_some_iff.mp hrest
  refine ⟨ls, hls, ?_⟩
  cases s with
  | finished fields => exact pending_run hrun
  | _ => cases hfinished

end Retrieval.Document
