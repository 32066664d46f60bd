import Retrieval.Error.Query
import Retrieval.Number.Double
import Retrieval.Schema.Field

/-!
When a failed attempt is repeated: how often, and after which delay. Delays grow by a factor up to a
limit, and each is stretched by a random part of itself.
-/

namespace Retrieval

open Schema

structure RetryPolicy where
  maxAttempts : Nat := 4
  baseDelay : Float := 0.5
  maxDelay : Float := 8.0
  factor : Float := 2.0
  /-- The largest part of a delay that may be added to it. -/
  jitter : Float := 0.2
  /-- The time limit of an attempt in seconds, if there is one. -/
  attemptTimeout : Option Float := some 30.0
  deriving Repr

namespace RetryPolicy

/-- Delays grow also if one is stretched and the next is not. -/
def growthRule (p : RetryPolicy) : Option String :=
  if p.factor ≤ 1.0 + p.jitter then
    some "factor must exceed 1 + jitter so that delays keep increasing."
  else none

def read (es : Entries Value) : Checked RetryPolicy :=
  let d : RetryPolicy := {}
  Checked.require
    (RetryPolicy.mk <$> defaulted "max_attempts" d.maxAttempts atLeastOne es
      <*> defaulted "base_delay" d.baseDelay (realWithin { atLeast := some 0.0 }) es
      <*> defaulted "max_delay" d.maxDelay (realWithin { atLeast := some 0.0 }) es
      <*> defaulted "factor" d.factor (realWithin { above := some 1.0 }) es
      <*> defaulted "jitter" d.jitter (realWithin { below := some 1.0, atLeast := some 0.0 }) es
      <*> defaulted "attempt_timeout" d.attemptTimeout
        (optional (realWithin { above := some 0.0 })) es)
    growthRule

/-- The policy that settings give. A time limit of zero is none. -/
def ofSettings (s : Settings) : Except Failure RetryPolicy := do
  let d : RetryPolicy := {}
  let number (key : String) (fallback : Value) : Except Failure Value :=
    (s.numberOr key fallback).mapError .setting
  let limit ← number "QUERY_ATTEMPT_TIMEOUT" (.float 30.0)
  let attempts ← number "QUERY_RETRY_MAX_ATTEMPTS" (.int d.maxAttempts)
  let base ← number "QUERY_RETRY_BASE_DELAY" (.float d.baseDelay)
  let most ← number "QUERY_RETRY_MAX_DELAY" (.float d.maxDelay)
  let factor ← number "QUERY_RETRY_FACTOR" (.float d.factor)
  let jitter ← number "QUERY_RETRY_JITTER" (.float d.jitter)
  let fields : Entries Value :=
    [("max_attempts", attempts), ("base_delay", base), ("max_delay", most), ("factor", factor),
      ("jitter", jitter), ("attempt_timeout", if limit.isTruthy then limit else .null)]
  (read fields).toExcept.mapError .schema

end RetryPolicy

/-- A delay of `base` grown by `power`, but no more than `most`, and stretched by a part of itself.
The numbers are of any kind. -/
def stretchedDelay {α : Type} [Mul α] [Add α] [OfNat α 1] [LT α] [DecidableLT α]
    (base power most stretch : α) : α :=
  let grown := base * power
  (if most < grown then most else grown) * (1 + stretch)

/-- The delay before a retry, counted from one, by the powers of the factor that it grows by: before
the first retry it has not grown yet. A power may be missing, as `m` tells. -/
def scheduledDelay (m : Type → Type) [Functor m] {α : Type} [Mul α] [Add α] [OfNat α 1] [LT α]
    [DecidableLT α] (power : Int → m α) (base most stretch : α) (retry : Int) : m α :=
  (stretchedDelay base · most stretch) <$> power (retry - 1)

namespace RetryPolicy

/-- A power; nothing if it is too large for a float, or if its exponent is. -/
def power? (factor : Float) (exponent : Int) : Option Float := do
  let e ← Number.ofInt? exponent
  let n ← Number.toInt? e
  if Number.outgrows factor n then none else some (Float.pow factor e)

/-- The delay before a retry, counted from one, for a random number between zero and one; nothing if
the growth is too large for a float. -/
def delay? (p : RetryPolicy) (retry : Int) (random : Float) : Option Float :=
  scheduledDelay Option (power? p.factor) p.baseDelay p.maxDelay
    (0.0 + (p.jitter - 0.0) * random) retry

theorem delay?_eq (p : RetryPolicy) (retry : Int) (random : Float) : p.delay? retry random =
    (power? p.factor (retry - 1)).map fun power =>
      stretchedDelay p.baseDelay power p.maxDelay (0.0 + (p.jitter - 0.0) * random) := rfl

end RetryPolicy

end Retrieval
