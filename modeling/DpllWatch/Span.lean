/-! Spans of time, exact to the nanosecond. -/

namespace DpllWatch

/-- A span holds whole seconds in a 64-bit word and a rest below one second. -/
structure Span where
  nanos : Nat
  nanos_lt : nanos < UInt64.size * 1000000000
deriving DecidableEq, Repr

namespace Span

@[ext] theorem ext {a b : Span} (h : a.nanos = b.nanos) : a = b := by
  cases a; cases b; simp_all

def zero : Span := ⟨0, by decide⟩

instance : Inhabited Span := ⟨zero⟩

def ofNanos? (n : Nat) : Option Span :=
  if h : n < UInt64.size * 1000000000 then some ⟨n, h⟩ else none

def ofMillis (ms : UInt64) : Span where
  nanos := ms.toNat * 1000000
  nanos_lt := by have := ms.toNat_lt_size; omega

def seconds (s : Span) : Nat := s.nanos / 1000000000

def subsecNanos (s : Span) : Nat := s.nanos % 1000000000

def millis (s : Span) : Nat := s.nanos / 1000000

@[simp] theorem millis_ofMillis (ms : UInt64) : (ofMillis ms).millis = ms.toNat := by
  simp [millis, ofMillis]

def min (a b : Span) : Span := if a.nanos ≤ b.nanos then a else b

def max (a b : Span) : Span := if a.nanos ≤ b.nanos then b else a

theorem nanos_min (a b : Span) : (min a b).nanos = Min.min a.nanos b.nanos := by
  grind [min]

theorem nanos_max (a b : Span) : (max a b).nanos = Max.max a.nanos b.nanos := by
  grind [max]

def double? (s : Span) : Option Span := ofNanos? (2 * s.nanos)

end Span

end DpllWatch
