import FrameBridge.Http.Header
import FrameBridge.Text.Blank

/-!
# Requests for an upgrade

The `Upgrade` lines of a request are one list of protocols divided by commas.
Lines that are no text name no protocol.
-/

namespace FrameBridge
namespace Http

/-- The text names the protocol, whatever its letter case and the white space
around it. -/
def namesWebSocket (element : List Char) : Bool :=
  Text.equalFold (Text.trim element) "websocket".toList

/-- One line of protocols names the protocol. -/
def lineNamesWebSocket (line : List UInt8) : Bool :=
  match Header.textOf line with
  | none => false
  | some text => (Text.splitAll ',' text).any namesWebSocket

def isUpgrade (headers : Headers) : Bool :=
  (headers.getAll "upgrade").any lineNamesWebSocket

end Http
end FrameBridge
