import FrameBridge.Http.Request
import FrameBridge.Http.Response
import FrameBridge.Text.Split
import FrameBridge.Text.Utf8

/-!
# Handshakes

A request for an upgrade has to be a complete handshake: a `GET` request whose
header lines agree to the upgrade, on a connection that can be handed over.
The checks have a fixed order, and the first that fails decides the answer.
-/

namespace FrameBridge

inductive HandshakeError where
  | method
  | connection
  | protocol
  | key
  | version
  | notUpgradable
  deriving DecidableEq

namespace HandshakeError

def message : HandshakeError → String
  | method => "Request method must be `GET`"
  | connection => "Connection header did not include 'upgrade'"
  | protocol => "`Upgrade` header did not include 'websocket'"
  | key => "`Sec-WebSocket-Key` header missing"
  | version => "`Sec-WebSocket-Version` header did not include '13'"
  | notUpgradable => "WebSocket request couldn't be upgraded since no upgrade state was present"

def status : HandshakeError → Nat
  | method => 405
  | notUpgradable => 426
  | _ => 400

/-- The response to a handshake that is refused. -/
def response (e : HandshakeError) : Response String :=
  Response.ofText e.status e.message

end HandshakeError

namespace Handshake

/-- The first line with a name is some text, whatever its letter case. -/
def lineEquals (headers : Headers) (name text : String) : Bool :=
  match headers.get? name with
  | some value => Text.equalFold (Text.charsOfBytes value) text.toList
  | none => false

/-- The first line with a name is in UTF-8 and has some text in lower case in
it, whatever its letter case. -/
def lineContains (headers : Headers) (name text : String) : Bool :=
  match headers.get? name >>= Utf8.decode? with
  | some line => Text.occursIn text.toList (Text.foldCase line)
  | none => false

/-- Goes on if a condition holds. -/
def require (condition : Bool) (e : HandshakeError) : Except HandshakeError Unit :=
  if condition then .ok () else .error e

def check (request : Request) : Except HandshakeError Unit := do
  require (request.method == "GET") .method
  require (lineContains request.headers "connection" "upgrade") .connection
  require (lineEquals request.headers "upgrade" "websocket") .protocol
  require (request.headers.get? "sec-websocket-key").isSome .key
  require (lineEquals request.headers "sec-websocket-version" "13") .version
  require request.upgradable .notUpgradable

end Handshake
end FrameBridge
