import Flotilla.Time

/-!
# Tickers

A loop runs once at its start and then once in every period.  A run that is late by more than a small
tolerance delays all later ones.
-/

namespace Flotilla.Ticker

/-- How late a run may be without any effect on the later ones. -/
def tolerance : Span := Span.millis 5

/-- When the run after the one at `now` is due, which itself was due at `due`. -/
def next (due now : Instant) (period : Span) : Instant :=
  if now > due + tolerance then now + period else due + period

theorem next_of_punctual (due : Instant) (period : Span) : next due due period = due + period := by
  have h : ¬ due > due + (tolerance : Int) :=
    Int.not_lt.mpr (Int.le_add_of_nonneg_right (Int.natCast_nonneg _))
  exact if_neg h

end Flotilla.Ticker
