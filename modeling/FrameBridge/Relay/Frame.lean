import FrameBridge.Text.Utf8

/-!
# Frames

What the client and the relay say to each other.  Only binary and text frames
carry a payload for the upstream.
-/

namespace FrameBridge

/-- A message of the WebSocket protocol. -/
inductive Frame where
  | binary (data : List UInt8)
  | text (s : String)
  | ping (data : List UInt8)
  | pong (data : List UInt8)
  | close (status : Option (UInt16 × String))
  deriving DecidableEq

/-- What a frame means to the upstream: a payload, nothing, or that the client wants
no more. -/
inductive Frame.Content where
  | payload (data : List UInt8)
  | control
  | close

namespace Frame

/-- What a frame means to the upstream: the payload of a text frame are its
bytes in UTF-8. -/
def content : Frame → Content
  | binary data => .payload data
  | text s => .payload (Utf8.encodeString s)
  | ping _ => .control
  | pong _ => .control
  | close _ => .close

end Frame
end FrameBridge
