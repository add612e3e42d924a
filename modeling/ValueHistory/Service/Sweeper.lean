import ValueHistory.History.Basic

/-! The sweeper: the expired leases of a history are removed at regular times, and for the first
time at once.
-/

namespace ValueHistory

/-- A sweeper, which lets some time pass between two sweeps, in nanoseconds. -/
structure Sweeper where
  period : Nat
  positive : 0 < period

namespace Sweeper

/-- Starts a sweeper, which needs some time between its sweeps. -/
def start? (period : Nat) : Option Sweeper :=
  if positive : 0 < period then some ⟨period, positive⟩ else none

/-- The history after the sweeps of a span of time in nanoseconds. -/
def sweep (sweeper : Sweeper) (history : History) (moment : Moment) (span : Nat) : History :=
  (List.range (span / sweeper.period + 1)).foldl
    (fun history number =>
      (history.sweep { moment with ticks := moment.ticks + number * sweeper.period }).2)
    history

end Sweeper

end ValueHistory
