import PanelForms.Backend.Request
import PanelForms.Json.Numeral
import PanelForms.Stop

/-!
# Retries

A call that fails for a passing reason is made again, up to a number of attempts, after a delay
that grows by a factor up to a bound.  The call is given up at once when its stop signal has
fired.

Main definitions:

- `RetryPolicy`: how often and how patiently to call.
- `RetryPolicy.run`: the attempts of a call.
- `RetryPolicy.backoff`: the delay after an attempt, in nanoseconds.
-/

namespace PanelForms

open Number

/-! ## Attempts -/

/-- Why a call was given up. -/
inductive RetryError where
  | stopped
  | failed (attempts : Nat) (source : ApiError)
  deriving DecidableEq

namespace RetryError

/-- What is reported. -/
def message : RetryError → String
  | .stopped => "stopped before the call succeeded"
  | .failed attempts source =>
    source.message ++ " (after " ++ toString attempts ++ " attempt(s))"

/-- The messages of the errors below this one. -/
def causes : RetryError → List String
  | .stopped => []
  | .failed _ source => [source.message]

end RetryError

/-- How often to call, and the delays in nanoseconds: the first one, the factor between one and
the next, and the greatest one. -/
structure RetryPolicy where
  maxAttempts : Nat
  initialBackoff : Nat
  multiplier : Binary64
  maxBackoff : Nat
  deriving DecidableEq

/-- Nanoseconds of a number of milliseconds. -/
def nanosOfMillis (ms : Nat) : Nat :=
  ms * 1000000

/-- The result of the attempts of a call, with the signal and the state after them. -/
structure Retried (σ α : Type) where
  result : Except RetryError α
  signal : StopSignal
  state : σ

namespace RetryPolicy

/-- Three attempts, 200 milliseconds after the first, twice as long after the second, and never
more than five seconds. -/
def standard : RetryPolicy :=
  ⟨3, nanosOfMillis 200, Json.nearestNat 2, nanosOfMillis 5000⟩

/-- One attempt only. -/
def none : RetryPolicy :=
  { standard with maxAttempts := 1 }

/-- The number of attempts, at least one. -/
def attempts (p : RetryPolicy) : Nat :=
  max p.maxAttempts 1

/-- Attempt a call for the `attempt`-th time and then up to `left` times more.  The signal is
looked at before every attempt and during every delay. -/
def runFrom {σ α : Type} (call : σ → Except ApiError α × σ) :
    (left attempt : Nat) → StopSignal → σ → Retried σ α
  | left, attempt, signal, s =>
    let (fired, signal) := signal.observe
    if fired then ⟨.error .stopped, signal, s⟩
    else
      match call s with
      | (.ok value, s) => ⟨.ok value, signal, s⟩
      | (.error e, s) =>
        match left with
        | 0 => ⟨.error (.failed attempt e), signal, s⟩
        | left + 1 =>
          if !e.isTransient then ⟨.error (.failed attempt e), signal, s⟩
          else
            let (fired, signal) := signal.observe
            if fired then ⟨.error .stopped, signal, s⟩
            else runFrom call left (attempt + 1) signal s

/-- The attempts of a call: the first success or lasting failure ends them, and so does the last
attempt. -/
def run {σ α : Type} (p : RetryPolicy) (call : σ → Except ApiError α × σ) (signal : StopSignal)
    (s : σ) : Retried σ α :=
  runFrom call (p.attempts - 1) 1 signal s

end RetryPolicy

/-- A signal that fires during the `k`-th attempt of a call, or before the first one if `k` is
zero: every attempt but the last is preceded by one look and followed by one. -/
def StopSignal.duringAttempt (k : Nat) : StopSignal :=
  .after (2 * k - 1)

/-! ## Delays -/

/-- A nonnegative quantity of rounded arithmetic: a finite number, one too great for that, or the
product of nothing and something too great. -/
inductive Quantity where
  | finite (x : Binary64)
  | infinite
  | undefined

namespace Quantity

/-- The number of a rank. -/
def ofRank (rank : Nat) : Quantity :=
  match Binary64.ofRank? false rank with
  | some x => .finite x
  | none => .infinite

/-- The rounded product. -/
def mul : Quantity → Quantity → Quantity
  | .finite x, .finite y =>
    .ofRank (rankOfQuotient (x.units * y.units) (unitsPerOne * unitsPerOne))
  | .finite x, .infinite => if x.rank = 0 then .undefined else .infinite
  | .infinite, .finite y => if y.rank = 0 then .undefined else .infinite
  | .infinite, .infinite => .infinite
  | _, _ => .undefined

/-- The power by repeated squaring: the factors of the binary digits of the exponent, least
first. -/
def pow (x : Quantity) (exponent : Nat) : Quantity :=
  go 6 (.finite (Json.nearestNat 1)) x exponent
where
  /-- Multiply the factors of at most `digits` binary digits into `product`. -/
  go : (digits : Nat) → (product factor : Quantity) → Nat → Quantity
  | 0, product, _, _ => product
  | digits + 1, product, factor, n =>
    let product := if n % 2 = 1 then product.mul factor else product
    if n / 2 = 0 then product else go digits product (factor.mul factor) (n / 2)

/-- The lesser of a quantity and a number; the number, if the quantity is undefined. -/
def min (q : Quantity) (bound : Binary64) : Binary64 :=
  match q with
  | .finite x => if x.rank ≤ bound.rank then x else bound
  | _ => bound

end Quantity

/-- Nanoseconds in a second. -/
def nanosPerSecond : Nat := 1000000000

/-- The number of seconds in so many nanoseconds: whole seconds plus the rounded fraction,
rounded. -/
def secondsOfNanos (nanos : Nat) : Binary64 :=
  let whole := Json.nearestNat (nanos / nanosPerSecond)
  let fraction := rankOfQuotient (nanos % nanosPerSecond) nanosPerSecond
  (Binary64.ofQuotient? false (whole.units + unitsOfRank fraction) unitsPerOne).getD whole

/-- The nearest number of nanoseconds in so many seconds, the even one on a tie. -/
def nanosOfSeconds (x : Binary64) : Nat :=
  roundHalfEven (x.units * nanosPerSecond) unitsPerOne

namespace RetryPolicy

/-- The factor between delays, at least one. -/
def growth (p : RetryPolicy) : Binary64 :=
  let one := Json.nearestNat 1
  if p.multiplier.negative || p.multiplier.rank ≤ one.rank then one else p.multiplier

/-- The delay after a failed attempt, counted from one. -/
def backoff (p : RetryPolicy) (attempt : Nat) : Nat :=
  let delay := (Quantity.finite (secondsOfNanos p.initialBackoff)).mul
    ((Quantity.finite p.growth).pow (Nat.min (attempt - 1) 32))
  nanosOfSeconds (delay.min (secondsOfNanos p.maxBackoff))

end RetryPolicy
end PanelForms
