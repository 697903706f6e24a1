/-!
# Spans and instants

A `Span` is a length of time in whole nanoseconds, at most `2 ^ 64` seconds less
one nanosecond. Subtraction stops at zero; addition is refused when the sum is
longer than the longest span (`Span.add?`). An `Instant` is a reading of the
clock, in whole milliseconds since the start: a task due a fraction of a
millisecond after an instant is due at the next whole one, and a task due later
than any clock can read is due in thirty years (`Instant.plus`).
-/

namespace LeaseKeeper

/-- The number of nanoseconds in a second. -/
def nanosPerSecond : Nat := 1000000000

/-- The number of nanoseconds in a millisecond. -/
def nanosPerMilli : Nat := 1000000

/-- The nanoseconds of the longest span. -/
def longestNanos : Nat := 18446744073709551615999999999

/-- A length of time. -/
structure Span where
  nanos : Nat
  nanos_le : nanos ≤ longestNanos := by decide
deriving DecidableEq

namespace Span

theorem ext {a b : Span} (h : a.nanos = b.nanos) : a = b := by
  cases a; cases b; simp_all

/-- The span of no length. -/
def zero : Span := ⟨0, Nat.zero_le _⟩

instance : Inhabited Span := ⟨zero⟩

/-- The longest span. -/
def longest : Span := ⟨longestNanos, Nat.le_refl _⟩

/-- So many nanoseconds, or the longest span. -/
def clamp (nanos : Nat) : Span := ⟨min nanos longestNanos, Nat.min_le_right _ _⟩

/-- Thirty years of three hundred and sixty-five days. -/
def thirtyYears : Span := ⟨946080000 * nanosPerSecond, by decide⟩

/-- So many whole seconds. -/
def ofSeconds (seconds : UInt64) : Span :=
  ⟨seconds.toNat * nanosPerSecond, by
    have := seconds.toNat_lt
    simp only [nanosPerSecond, longestNanos]
    omega⟩

/-- So many milliseconds, or the longest span. -/
def ofMillis (millis : Nat) : Span := clamp (millis * nanosPerMilli)

/-- Seconds and nanoseconds beside them, or the longest span. -/
def ofParts (seconds nanos : Nat) : Span := clamp (seconds * nanosPerSecond + nanos)

/-- Whether the span has no length. -/
def isZero (a : Span) : Bool := a.nanos == 0

/-- The whole seconds of a span. -/
def asSeconds (a : Span) : Nat := a.nanos / nanosPerSecond

/-- The whole milliseconds of a span. -/
def asMillis (a : Span) : Nat := a.nanos / nanosPerMilli

/-- The whole microseconds of a span. -/
def asMicros (a : Span) : Nat := a.nanos / 1000

instance : LE Span := ⟨fun a b => a.nanos ≤ b.nanos⟩
instance : LT Span := ⟨fun a b => a.nanos < b.nanos⟩
instance (a b : Span) : Decidable (a ≤ b) := inferInstanceAs (Decidable (a.nanos ≤ b.nanos))
instance (a b : Span) : Decidable (a < b) := inferInstanceAs (Decidable (a.nanos < b.nanos))

theorem le_def {a b : Span} : a ≤ b ↔ a.nanos ≤ b.nanos := Iff.rfl

theorem lt_def {a b : Span} : a < b ↔ a.nanos < b.nanos := Iff.rfl

/-- Subtraction stops at zero. -/
def sub (a b : Span) : Span := ⟨a.nanos - b.nanos, Nat.le_trans (Nat.sub_le _ _) a.nanos_le⟩

instance : Sub Span := ⟨sub⟩

@[simp] theorem nanos_sub (a b : Span) : (a - b).nanos = a.nanos - b.nanos := rfl

@[simp] theorem nanos_zero : zero.nanos = 0 := rfl

theorem isZero_iff {a : Span} : a.isZero = true ↔ a = zero := by
  constructor
  · intro h; exact ext (by simpa [isZero] using h)
  · rintro rfl; rfl

/-- The sum, unless it is longer than the longest span. -/
def add? (a b : Span) : Option Span :=
  if h : a.nanos + b.nanos ≤ longestNanos then some ⟨a.nanos + b.nanos, h⟩ else none

theorem add?_eq_none_iff {a b : Span} : a.add? b = none ↔ longestNanos < a.nanos + b.nanos := by
  simp only [add?]
  split <;> simp <;> omega

/-- The longer of two spans. -/
def longer (a b : Span) : Span := if a.nanos ≤ b.nanos then b else a

/-- The shorter of two spans. -/
def shorter (a b : Span) : Span := if a.nanos ≤ b.nanos then a else b

@[simp] theorem nanos_longer (a b : Span) : (longer a b).nanos = max a.nanos b.nanos := by
  simp only [longer]
  split <;> omega

@[simp] theorem nanos_shorter (a b : Span) : (shorter a b).nanos = min a.nanos b.nanos := by
  simp only [shorter]
  split <;> omega

/-- The decimal places of `part` out of `whole` without the zeros at their end;
`places` is the number of digits below the unit. -/
def fraction (places part : Nat) : List Char :=
  let digits := (Nat.toDigits 10 part)
  let padded := List.replicate (places - digits.length) '0' ++ digits
  (padded.reverse.dropWhile (· == '0')).reverse

/-- A number of units with its decimal places. -/
def decimal (nanos unit places : Nat) (name : String) : String :=
  let whole := toString (nanos / unit)
  match fraction places (nanos % unit) with
  | [] => whole ++ name
  | ds => whole ++ "." ++ String.ofList ds ++ name

/-- The largest unit that the span fills at least once, with as many decimal
places as it needs. -/
def render (a : Span) : String :=
  if nanosPerSecond ≤ a.nanos then decimal a.nanos nanosPerSecond 9 "s"
  else if nanosPerMilli ≤ a.nanos then decimal a.nanos nanosPerMilli 6 "ms"
  else if 1000 ≤ a.nanos then decimal a.nanos 1000 3 "µs"
  else decimal a.nanos 1 0 "ns"

end Span

/-- A reading of the clock. -/
structure Instant where
  millis : Nat
deriving DecidableEq, Inhabited

namespace Instant

instance : LE Instant := ⟨fun a b => a.millis ≤ b.millis⟩
instance : LT Instant := ⟨fun a b => a.millis < b.millis⟩
instance (a b : Instant) : Decidable (a ≤ b) := inferInstanceAs (Decidable (a.millis ≤ b.millis))
instance (a b : Instant) : Decidable (a < b) := inferInstanceAs (Decidable (a.millis < b.millis))

/-- The first reading of the clock. -/
def start : Instant := ⟨0⟩

/-- The seconds that a clock counts up to. -/
def countedSeconds : Nat := 9223372036854775808

/-- The first whole millisecond at which at least `s` has passed, or thirty years from now
if no clock counts so far. -/
def plus (i : Instant) (s : Span) : Instant :=
  if i.millis / 1000 + s.asSeconds < countedSeconds then
    ⟨i.millis + (s.nanos + 999999) / nanosPerMilli⟩
  else ⟨i.millis + Span.thirtyYears.asMillis⟩

/-- How long ago `earlier` was; nothing, if it is still to come. -/
def since (i earlier : Instant) : Span := Span.ofMillis (i.millis - earlier.millis)

@[simp] theorem nanos_since (i earlier : Instant) :
    (i.since earlier).nanos = min ((i.millis - earlier.millis) * nanosPerMilli) longestNanos := rfl

theorem le_plus (i : Instant) (s : Span) : i ≤ i.plus s := by
  simp only [plus]
  split <;> exact Nat.le_add_right _ _

end Instant

end LeaseKeeper
