import FrameBridge.Http.Handshake
import FrameBridge.Relay.Resolution
import FrameBridge.Server.Basic

/-!
# The relay of a server

A request to the relay is decided in four steps: its target is resolved, the
handshake is checked, a slot is taken, and a connection to the target is made.
The first step that fails decides the answer, and what was taken before is
given back.  All steps go by one version of the configuration.
-/

namespace FrameBridge

/-- How connecting to a target goes; a failure has the text of the error. -/
inductive DialOutcome where
  | connected (latency : Duration)
  | refused (cause : String)
  | timedOut

/-- The answer to a request to the relay.  A session begins with frames of at most
some size. -/
inductive RelayReply where
  | refused (rejection : Rejection)
  | badHandshake (e : HandshakeError)
  | switched (session : SessionId) (target : Target) (bufferSize : Nat)

/-- What comes of a request to the relay: the answer, the targets that a connection
was tried to, and the server afterwards. -/
structure RelayOutcome where
  reply : RelayReply
  dialed : List Target := []
  server : Server

namespace RelayReply

/-- The label under which handshakes that are refused are counted. -/
def badHandshakeLabel : String := "bad_handshake"

/-- The label under which an answer is counted as a rejection. -/
def label? : RelayReply → Option String
  | refused rejection => some rejection.label
  | badHandshake _ => some badHandshakeLabel
  | switched _ _ _ => none

def response : RelayReply → Response String
  | refused rejection => Response.ofRejection rejection
  | badHandshake e => e.response
  | switched _ _ _ =>
      { status := 101, headers := [("connection", "upgrade"), ("upgrade", "websocket")], body := "" }

end RelayReply

namespace Server

/-- Refuses a request, and counts that. -/
def refuse (server : Server) (reply : RelayReply) (dialed : List Target) : RelayOutcome where
  reply := reply
  dialed := dialed
  server :=
    match reply.label? with
    | some label => server.count (.rejections label)
    | none => server

/-- Releases a session, when it is done or its connection is not handed over. -/
def endSession (server : Server) (session : SessionId) : Server :=
  { server with tracker := server.tracker.release session }

/-- Lets a session that holds a slot connect to its target. -/
def connect (server : Server) (session : SessionId) (target : Target) (dial : DialOutcome) :
    RelayOutcome :=
  match dial with
  | .connected latency =>
      let tracker := server.tracker.changeStats session (.latency latency)
      { reply := .switched session target server.config.relay.bufferSize
        dialed := [target]
        server := { server with tracker := tracker }.count .connectDuration }
  | .refused cause =>
      (server.endSession session).refuse (.refused (.upstreamUnreachable target cause)) [target]
  | .timedOut =>
      let limit : Duration := ⟨UInt64.ofNat server.config.timeouts.connectSecs, 0⟩
      (server.endSession session).refuse (.refused (.upstreamTimeout target limit)) [target]

/-- Decides a request to the relay whose handshake was checked already, with
some verdict; connecting to a target within a number of seconds goes as `dial`
says. -/
def relayChecked (server : Server) (request : Request) (verdict : Except HandshakeError Unit)
    (dial : Target → Nat → DialOutcome) : RelayOutcome :=
  match server.config.relay.resolve request.headers request.uri with
  | .error rejection => server.refuse (.refused rejection) []
  | .ok target =>
      match verdict with
      | .error e => server.refuse (.badHandshake e) []
      | .ok () =>
          match server.tracker.accept request.peer target with
          | (none, tracker) =>
              { server with tracker := tracker }.refuse (.refused .atCapacity) []
          | (some session, tracker) =>
              { server with tracker := tracker }.connect session target
                (dial target server.config.timeouts.connectSecs)

def relay (server : Server) (request : Request) (dial : Target → Nat → DialOutcome) :
    RelayOutcome :=
  server.relayChecked request (Handshake.check request) dial

end Server
end FrameBridge
