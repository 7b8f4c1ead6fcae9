import LogCourier.Number.Digits
import LogCourier.Number.Rounding

/-! Spans of time in whole nanoseconds, their text, and nine tenths of them in double precision. -/

namespace LogCourier

/-- A length of time in nanoseconds. -/
structure Span where
  nanos : Nat
  deriving DecidableEq, Repr

namespace Span

/-- Nanoseconds in a second. -/
def perSecond : Nat := 1000000000

/-- Nanoseconds in a millisecond. -/
def perMilli : Nat := 1000000

/-- No time at all. -/
def zero : Span := ⟨0⟩

/-- A span of whole seconds and the nanoseconds beyond them. -/
def ofParts (seconds nanos : Nat) : Span := ⟨seconds * perSecond + nanos⟩

/-- A span of whole seconds. -/
def ofSeconds (seconds : Nat) : Span := ⟨seconds * perSecond⟩

/-- A span of whole milliseconds. -/
def ofMillis (millis : Nat) : Span := ⟨millis * perMilli⟩

/-- The whole seconds of a span. -/
def seconds (span : Span) : Nat := span.nanos / perSecond

/-- The nanoseconds of a span beyond its whole seconds. -/
def subseconds (span : Span) : Nat := span.nanos % perSecond

/-- The shorter of two spans. -/
def min (left right : Span) : Span := ⟨Nat.min left.nanos right.nanos⟩

/-- The span nearest to a given one between two bounds. -/
def clamp (span low high : Span) : Span :=
  if span.nanos < low.nanos then low else if high.nanos < span.nanos then high else span

/-- A whole number of units with the decimal fraction of the next one, without zeros at its end. -/
def unitText (perUnit places : Nat) (name : String) (nanos : Nat) : String :=
  let fraction := padZeros places (digits (nanos % perUnit))
  let kept := (fraction.reverse.dropWhile (· == '0')).reverse
  String.ofList (digits (nanos / perUnit) ++ (if kept.isEmpty then [] else '.' :: kept)) ++ name

/-- A span in the largest unit of which it holds at least one. -/
def text (span : Span) : String :=
  if perSecond ≤ span.nanos then unitText perSecond 9 "s" span.nanos
  else if perMilli ≤ span.nanos then unitText perMilli 6 "ms" span.nanos
  else if 1000 ≤ span.nanos then unitText 1000 3 "µs" span.nanos
  else unitText 1 0 "ns" span.nanos

/-- The longest span that can be told. -/
def longest : Span := ofParts 18446744073709551615 999999999

/-- A span in seconds, in double precision. -/
def inSeconds (span : Span) : Binary :=
  -- Whole seconds and the fraction are converted apart, and their sum is rounded again.
  let whole := Binary.nearest span.seconds 1
  let fraction := Binary.nearest span.subseconds perSecond
  Binary.nearest (whole.num * fraction.den + fraction.num * whole.den) (whole.den * fraction.den)

/-- The double nearest to nine tenths. -/
def nineTenthsFactor : Binary := Binary.nearest 9 10

/-- Nine tenths of a span: the product in double precision, to the nearest nanosecond. -/
def nineTenths (span : Span) : Span :=
  let time := span.inSeconds
  let product := Binary.nearest (time.num * nineTenthsFactor.num) (time.den * nineTenthsFactor.den)
  ⟨roundDiv (product.num * perSecond) product.den⟩

/-- Nine tenths of a span, unless that is more than the longest span. -/
def nineTenths? (span : Span) : Option Span :=
  if span.nineTenths.nanos ≤ longest.nanos then some span.nineTenths else none

end Span

end LogCourier
