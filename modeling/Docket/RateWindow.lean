import Docket.Calendar.Instant
/-!
A window of the request budget: what it allows, what is left of it, and the second at which it ends.
-/

namespace Docket

open Calendar (Instant lastSecond)

structure RateWindow where
  limit : Nat
  remaining : Nat
  resetAt : Nat
  deriving DecidableEq

namespace RateWindow

def isExhausted (w : RateWindow) : Bool := w.remaining = 0

def resetTime? (w : RateWindow) : Option Instant :=
  if (w.resetAt : Int) ≤ lastSecond then some ⟨w.resetAt, 0⟩ else none

/-- Whole seconds to wait; an instant before 1970 counts as the start of 1970. -/
def secondsUntilReset (w : RateWindow) (now : Instant) : Nat := w.resetAt - now.seconds.toNat

end RateWindow

end Docket
