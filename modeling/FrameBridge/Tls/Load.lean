import FrameBridge.Config.Load
import FrameBridge.Tls.Certificate
import FrameBridge.Tls.Pem
import FrameBridge.Tls.PrivateKey

/-!
# Loading of certificates

An encrypted listener needs a file with a chain of certificates and a file with
exactly one private key, which belongs to the first certificate: the public key
that goes with it has the description that the certificate holds.
-/

namespace FrameBridge

inductive TlsFileKind where
  | certificate
  | privateKey
  deriving DecidableEq

inductive TlsError where
  | missing (kind : TlsFileKind) (path : String)
  | invalid
  deriving DecidableEq

namespace TlsError

def kindName : TlsFileKind → String
  | .certificate => "Certificate"
  | .privateKey => "Private key"

def message : TlsError → String
  | missing kind path => kindName kind ++ " file not found: " ++ path
  | invalid => "the certificate and the private key cannot be used"

end TlsError

namespace Tls

/-- The certificates of a file; none if a section cannot be read. -/
def certificates? (file : List UInt8) : Option (List (List UInt8)) := do
  let sections ← (Pem.read file).mapM id
  return (sections.filter fun s => s.label == .certificate).map Pem.Section.content

/-- The section holds a private key. -/
def isPrivateKey (s : Pem.Section) : Bool :=
  s.label == .privateKey || s.label == .rsaPrivateKey || s.label == .ecPrivateKey

/-- The private key of a file; none if there is not exactly one.  Sections that
cannot be read are passed over. -/
def privateKey? (file : List UInt8) : Option (List UInt8) :=
  match ((Pem.read file).filterMap id).filter isPrivateKey with
  | [s] => some s.content
  | _ => none

/-- The files hold a certificate with its private key. -/
def isKeyPair (certificateFile keyFile : List UInt8) : Bool :=
  match certificates? certificateFile, privateKey? keyFile with
  | some (certificate :: _), some key =>
      match Certificate.keyInfo? certificate, PrivateKey.publicKey? key with
      | some info, some publicKey => info == publicKey.info
      | _, _ => false
  | _, _ => false

/-- Loads a certificate with its private key. -/
def load (files : String → FileContent) (tls : TlsFiles) : Except TlsError Unit :=
  match files tls.certPath, files tls.keyPath with
  | none, _ => .error (.missing .certificate tls.certPath)
  | some _, none => .error (.missing .privateKey tls.keyPath)
  | some certificateFile, some keyFile =>
      if isKeyPair certificateFile keyFile then .ok () else .error .invalid

end Tls
end FrameBridge
