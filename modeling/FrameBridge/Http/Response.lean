import FrameBridge.Relay.Rejection

/-!
# Responses

A response has a status, header lines and a body, which is a text or a value
in JSON.
-/

namespace FrameBridge

structure Response (Body : Type) where
  status : Nat
  headers : List (String × String) := []
  body : Body

namespace Response

def map {A B : Type} (f : A → B) (response : Response A) : Response B :=
  { status := response.status, headers := response.headers, body := f response.body }

def plainText : String := "text/plain; charset=utf-8"

def ofText (status : Nat) (text : String) : Response String :=
  { status := status, headers := [("content-type", plainText)], body := text }

/-- The response to a request that is refused.  If an upgrade is required, the
response says so in its headers. -/
def ofRejection (rejection : Rejection) : Response String :=
  let response := ofText rejection.status rejection.message
  if rejection.status = 426 then
    { response with
      headers := response.headers ++ [("upgrade", "websocket"), ("connection", "Upgrade")] }
  else
    response

end Response
end FrameBridge
