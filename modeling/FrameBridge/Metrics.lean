import FrameBridge.Decimal.Binary64
import FrameBridge.Relay.CloseReason

/-!
# Metrics

The relay counts what it does under fixed names.  A metric appears once it is
touched, even by zero.  Counters wrap at 2^64.  Of the durations only the
number of samples is kept.  The number of live sessions is no counter but a
gauge: a binary fraction that is set anew each time.
-/

namespace FrameBridge

/-- A name under which something is counted.  Of a duration, the samples are counted. -/
inductive Metric where
  | sessionsTotal
  | rejections (reason : String)
  | bytes (direction : Direction)
  | sessionDuration (reason : CloseReason)
  | connectDuration
  deriving DecidableEq

namespace Metric

/-- The name of a metric with its label. -/
def name : Metric → String
  | sessionsTotal => "relay_sessions_total"
  | rejections reason => "relay_rejections_total\x7breason=" ++ reason ++ "\x7d"
  | bytes direction => "relay_bytes_total\x7bdirection=" ++ direction.label ++ "\x7d"
  | sessionDuration reason => "relay_session_duration_seconds\x7breason=" ++ reason.label ++ "\x7d"
  | connectDuration => "relay_connect_duration_seconds"

end Metric

/-- The metrics that were touched, with their values: the counters, none of
which occurs twice, and the gauge of live sessions. -/
structure Metrics where
  entries : List (Metric × UInt64) := []
  sessionsActive? : Option Binary64 := none
  deriving DecidableEq

namespace Metrics

/-- The name of the gauge. -/
def sessionsActiveName : String := "relay_sessions_active"

/-- The value of a metric, if it was touched. -/
def get? (metrics : Metrics) (metric : Metric) : Option UInt64 :=
  metrics.entries.lookup metric

/-- The value of a metric; zero if it was not touched. -/
def value (metrics : Metrics) (metric : Metric) : UInt64 :=
  (metrics.get? metric).getD 0

/-- Changes an entry of a list; an absent entry starts at zero. -/
def alter (metric : Metric) (change : UInt64 → UInt64) :
    List (Metric × UInt64) → List (Metric × UInt64)
  | [] => [(metric, change 0)]
  | (m, n) :: rest =>
      if m = metric then (m, change n) :: rest else (m, n) :: alter metric change rest

/-- Adds to a counter, or samples to a distribution. -/
def add (metrics : Metrics) (metric : Metric) (n : UInt64) : Metrics :=
  { metrics with entries := alter metric (· + n) metrics.entries }

/-- Sets the gauge to a number of live sessions, as the nearest binary fraction. -/
def setSessionsActive (metrics : Metrics) (count : Nat) : Metrics :=
  { metrics with sessionsActive? := some (Binary64.ofNat count) }

end Metrics
end FrameBridge
