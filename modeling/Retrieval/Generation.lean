import Retrieval.Schema.Field
import Retrieval.Text.CharRanges

/-!
Generation directives: one text per record, one text over all records, or an answer to a question.
-/

namespace Retrieval

open Schema

inductive Role
  | system
  | user
  | assistant
  deriving DecidableEq, Repr

def Role.name : Role → String
  | .system => "system"
  | .user => "user"
  | .assistant => "assistant"

/-- A message of a chat. Its content may have placeholders. -/
structure ChatMessage where
  role : Role
  content : String
  deriving DecidableEq, Repr

structure GenerationOptions where
  provider : Option String
  model : Option String
  temperature : Option Float
  maxTokens : Option Nat
  deriving Repr

/-- What the generator is given: a text, or a chat. -/
inductive Prompt
  | text (text : String)
  | chat (messages : List ChatMessage)
  deriving DecidableEq, Repr

inductive Generation
  | perRecord (prompt : Prompt) (options : GenerationOptions)
  | overAll (task : Prompt) (properties : List String) (options : GenerationOptions)
  | ask (question : String) (properties : List String) (options : GenerationOptions)
  deriving Repr

namespace Generation

def roles : List (String × Role) :=
  [("system", .system), ("user", .user), ("assistant", .assistant)]

def readMessage (es : Entries Value) : Checked ChatMessage :=
  ChatMessage.mk <$> required "role" (choice roles) es <*> required "content" text es

/-- The bounds of a temperature. -/
def temperatureBounds : Bounds := { atMost := some 2.0, atLeast := some 0.0 }

def optionNames : List String := ["provider", "model", "temperature", "max_tokens"]

def readOptions (es : Entries Value) : Checked GenerationOptions :=
  (fun provider model temperature maxTokens _ => ⟨provider, model, temperature, maxTokens⟩)
    <$> defaulted "provider" none (optional text) es
    <*> defaulted "model" none (optional text) es
    <*> defaulted "temperature" none (optional (realWithin temperatureBounds)) es
    <*> defaulted "max_tokens" none (optional positive) es
    <*> onlyFields optionNames es

/-- Exactly one of a text and a chat, and not an empty one; `name` is what the text is called. -/
def promptOf (name : String) : Option String → Option (List ChatMessage) → Checked Prompt
  | some t, none =>
    if Text.isAllBlank t then .refuse (.rule s!"'{name}' must not be empty.")
    else .valid (.text t)
  | none, some ms =>
    if ms.isEmpty then .refuse (.rule "'messages' must not be empty.") else .valid (.chat ms)
  | _, _ => .refuse (.rule s!"Provide exactly one of '{name}' or 'messages'.")

def readPerRecord (prompt : Value) (messages : Option (List ChatMessage))
    (options : GenerationOptions) : Checked Generation :=
  (given "prompt" (optional text) prompt).bind fun t =>
    (fun p => .perRecord p options) <$> promptOf "prompt" t messages

def readOverAll (task : Value) (messages : Option (List ChatMessage)) (properties : List Value)
    (options : GenerationOptions) : Checked Generation :=
  let fields : Checked (Option String × List String) :=
    Prod.mk <$> given "task" (optional text) task
      <*> (items text properties).under (.field "properties")
  fields.bind fun (t, ps) => (fun p => .overAll p ps options) <$> promptOf "task" t messages

def readAsk (question : Value) (properties : List Value) (options : GenerationOptions) :
    Checked Generation :=
  (fun q ps => .ask q ps options) <$> given "question" nonEmptyText question
    <*> (items text properties).under (.field "properties")

end Generation

end Retrieval
