import FrameBridge.Relay.CloseReason
import FrameBridge.Time.Duration

/-!
# Session statistics

What is known of a session while it is live: its state, the bytes it moved in
each direction and how long connecting took.
-/

namespace FrameBridge

/-- The state of a session: admitted, relaying, with both pumps ended, and with both
ends closed. -/
inductive SessionState where
  | init
  | opened
  | closing
  | closed
  deriving DecidableEq

namespace SessionState

def label : SessionState → String
  | init => "init"
  | opened => "open"
  | closing => "closing"
  | closed => "closed"

/-- The state with a number; other numbers stand for the first state. -/
def ofNumber (n : UInt8) : SessionState :=
  if n = 1 then opened else if n = 2 then closing else if n = 3 then closed else init

end SessionState

/-- The statistics of a session.  The bytes to the upstream and to the client are
counted modulo 2^64. -/
structure Stats where
  state : SessionState := .init
  bytesUp : UInt64 := 0
  bytesDown : UInt64 := 0
  latencyMicros : UInt64 := 0
  wasOpened : Bool := false
  deriving DecidableEq

namespace Stats

/-- Enters a state. -/
def setState (stats : Stats) (state : SessionState) : Stats :=
  { stats with
    state := state
    wasOpened := stats.wasOpened || state = .opened }

/-- Counts bytes moved in a direction. -/
def record (stats : Stats) (direction : Direction) (n : UInt64) : Stats :=
  match direction with
  | .inbound => { stats with bytesUp := stats.bytesUp + n }
  | .outbound => { stats with bytesDown := stats.bytesDown + n }

def setLatency (stats : Stats) (latency : Duration) : Stats :=
  { stats with latencyMicros := latency.toMicros }

def latency (stats : Stats) : Duration :=
  Duration.ofMicros stats.latencyMicros

/-- A change of the statistics. -/
inductive Change where
  | state (state : SessionState)
  | record (direction : Direction) (n : UInt64)
  | latency (d : Duration)

def apply (stats : Stats) : Change → Stats
  | .state state => stats.setState state
  | .record direction n => stats.record direction n
  | .latency d => stats.setLatency d

end Stats
end FrameBridge
