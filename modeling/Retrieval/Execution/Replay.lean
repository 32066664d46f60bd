import Retrieval.Execution.Run

/-!
A backend that replays replies: one list for all requests, or one for each collection.
-/

namespace Retrieval

/-- The replies still to come. -/
inductive Replay
  | inOrder (replies : List Reply)
  | byCollection (replies : Entries (List Reply))

namespace Replay

/-- The collection that a request begins with. -/
def firstCollection (r : Request) : String := (r.members.head?.map Member.collection).getD ""

/-- The reply to a request; a backend without a reply left breaks off. -/
def next (request : Request) : Replay → Reply × Replay
  | .inOrder [] => (.broken .misuse, .inOrder [])
  | .inOrder (r :: rs) => (r, .inOrder rs)
  | .byCollection lists =>
    let key := firstCollection request
    match Entries.get? key lists with
    | some (r :: rs) => (r, .byCollection (Entries.set key rs lists))
    | _ => (.broken .misuse, .byCollection lists)

def transport : Transport Replay := fun request _ _ replay =>
  let (reply, rest) := next request replay
  ⟨reply, [], rest⟩

end Replay

end Retrieval
