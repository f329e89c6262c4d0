import FilterFleet.Time.Span

/-! # Tickers and the shutdown signal

A ticker is due once in every period.  A tick that is taken late by more than a moment puts the
next one a full period later; otherwise ticks keep their distance from the first.
-/

namespace FilterFleet

/-- When the next tick is due, and how far apart ticks are. -/
structure Ticker where
  due : Instant
  period : Span
deriving DecidableEq

namespace Ticker

/-- A ticker whose first tick is due at `first`; there is none without a period. -/
def startingAt? (first : Instant) (period : Span) : Option Ticker :=
  if period = 0 then none else some ⟨first, period⟩

/-- How late a tick may be taken without moving the ones after it. -/
def tolerance : Span := Span.ofMillis 5

/-- Whether a tick can be taken. -/
def isDue (t : Ticker) (now : Instant) : Bool := decide (t.due ≤ now)

/-- Take the tick that is due. -/
def take (t : Ticker) (now : Instant) : Ticker :=
  if t.due + tolerance < now then { t with due := now + t.period }
  else { t with due := t.due + t.period }

end Ticker

/-! ## Shutdown -/

/-- The sending side of the shutdown signal: how often it was sent, and whether it is gone. -/
structure ShutdownSignal where
  sent : Nat
  closed : Bool
deriving DecidableEq, Inhabited

/-- The receiving side: how many signals had been sent when it started to listen. -/
structure ShutdownListener where
  seen : Nat
deriving DecidableEq, Inhabited

namespace ShutdownSignal

/-- A signal never sent. -/
def new : ShutdownSignal := ⟨0, false⟩

/-- Send the signal to all that listen. -/
def send (s : ShutdownSignal) : ShutdownSignal := { s with sent := s.sent + 1 }

/-- Listen from now on. -/
def listen (s : ShutdownSignal) : ShutdownListener := ⟨s.sent⟩

/-- Whether a listener has something to receive: a signal sent since, or that none can come. -/
def reaches (s : ShutdownSignal) (l : ShutdownListener) : Bool := l.seen < s.sent || s.closed

end ShutdownSignal

end FilterFleet
