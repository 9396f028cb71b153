/-!
# Directions and close reasons

A session moves bytes in two directions.  It closes for one of four reasons,
which fixes the code and the text of the close frame to the client.
-/

namespace FrameBridge

/-- A direction in which a session moves bytes: `inbound` is to the upstream, and
`outbound` is to the client. -/
inductive Direction where
  | inbound
  | outbound
  deriving DecidableEq

namespace Direction

def label : Direction → String
  | inbound => "client_to_upstream"
  | outbound => "upstream_to_client"

end Direction

/-- Why a session closes: one of its ends is at its end, or a call of this end failed. -/
inductive CloseReason where
  | clientClosed
  | upstreamClosed
  | clientError
  | upstreamError
  deriving DecidableEq

namespace CloseReason

/-- The label of a reason, which is also the text of the close frame. -/
def label : CloseReason → String
  | clientClosed => "client_closed"
  | upstreamClosed => "upstream_closed"
  | clientError => "client_error"
  | upstreamError => "upstream_error"

/-- The code of the close frame: 1014 stands for a bad gateway. -/
def code : CloseReason → UInt16
  | clientClosed => 1000
  | upstreamClosed => 1000
  | clientError => 1011
  | upstreamError => 1014

end CloseReason

/-- The end of a session that failed, with the text of the error. -/
inductive PumpError where
  | client (text : String)
  | upstream (text : String)
  deriving DecidableEq

namespace PumpError

def message : PumpError → String
  | client text => "client transport: " ++ text
  | upstream text => "upstream socket: " ++ text

end PumpError

/-- How a pump ends: with its source, or with an error. -/
abbrev PumpResult : Type := Except PumpError Unit

namespace CloseReason

/-- The reason for which a session closes when a pump ends. -/
def ofResult (direction : Direction) : PumpResult → CloseReason
  | .ok () =>
      match direction with
      | .inbound => clientClosed
      | .outbound => upstreamClosed
  | .error (.client _) => clientError
  | .error (.upstream _) => upstreamError

end CloseReason
end FrameBridge
