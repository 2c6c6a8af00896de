/-!
# Instants and spans of time

A clock reading counts nanoseconds since the Unix epoch, so it may fall before it and may carry
digits below the millisecond. The calendar that stored instants are taken from is bounded: a
subtraction that would leave it has no result, which is why `Instant.minus?` is partial in its
type and not by convention.
-/

namespace Restage

/-- A point in time, as nanoseconds since the Unix epoch. -/
structure Instant where
  nanos : Int
  deriving DecidableEq, Repr, Inhabited

/-- A length of time, as a number of nanoseconds. -/
structure Span where
  nanos : Nat
  deriving DecidableEq, Repr, Inhabited

namespace Span

def ofSeconds (seconds : Nat) : Span := ⟨seconds * 1000000000⟩

def ofMillis (millis : Nat) : Span := ⟨millis * 1000000⟩

def ofDays (days : Nat) : Span := ofSeconds (days * 86400)

/-- The whole milliseconds of a span; what is left over is dropped. -/
def millis (span : Span) : Nat := span.nanos / 1000000

/-- The whole seconds of a span. -/
def seconds (span : Span) : Nat := span.nanos / 1000000000

end Span

namespace Instant

def ofMillis (millis : Int) : Instant := ⟨millis * 1000000⟩

/-- The whole milliseconds of a reading, rounded toward the past. -/
def millis (instant : Instant) : Int := instant.nanos / 1000000

@[simp] theorem millis_ofMillis (millis : Int) : (ofMillis millis).millis = millis := by
  simp [ofMillis, Instant.millis]

/-- The first nanosecond of the calendar: the start of the year -262143. -/
def calendarStart : Int := -8334601228800 * 1000000000

/-- The first nanosecond after the calendar, whose last year is 262142. -/
def calendarStop : Int := 8210266876800 * 1000000000

/-- Whether the calendar can name the instant. -/
def InCalendar (instant : Instant) : Prop :=
  calendarStart ≤ instant.nanos ∧ instant.nanos < calendarStop

instance (instant : Instant) : Decidable instant.InCalendar :=
  inferInstanceAs (Decidable (_ ∧ _))

/-- The instant of a millisecond timestamp, when the calendar can name it. -/
def ofMillis? (millis : Int) : Option Instant :=
  if (ofMillis millis).InCalendar then some (ofMillis millis) else none

/-- The instant a span earlier, when the calendar can name it. -/
def minus? (instant : Instant) (span : Span) : Option Instant :=
  let earlier : Instant := ⟨instant.nanos - span.nanos⟩
  if earlier.InCalendar then some earlier else none

end Instant

end Restage
