import Tronkit.Configuration

/-!
# The way to the services

A gateway knows the endpoints of a configuration and the key that goes with every request. It
stands on a library for requests, which has to open for it first. It joins the path of a request to
the endpoint of its service, with one slash between them. What it joins is looked at once more
before it is asked for: only URLs of the web can be, and not all of them.
-/

namespace Tronkit

/-- A library is told the seconds that a request may take and the headers that go with every one,
and opens or says why it does not. -/
abbrev Library (H : Type) :=
  (timeout : Nat) → (headers : List (String × String)) → Except String H

structure Gateway where
  endpoints : Endpoints
  apiKey : Option String
  deriving DecidableEq, Repr

namespace Gateway

/-- A header holds no control character but the tab. -/
def isHeaderByte (b : UInt8) : Bool := (0x20 ≤ b && b ≠ 0x7F) || b = 0x09

def isHeaderValue (s : String) : Bool := (textBytes s).all isHeaderByte

def keyHeader : String := "tron-pro-api-key"

def headers (c : Configuration) : Except ClientError (List (String × String)) :=
  match c.apiKey with
  | none => .ok []
  | some key =>
    if isHeaderValue key then .ok [(keyHeader, key)]
    else .error (.invalidConfig "invalid api_key: failed to parse header value")

def notOpened (reason : String) : ClientError :=
  .invalidConfig (TransportError.internal ("Error building HTTP client: " ++ reason)).message

def connect {H : Type} (library : Library H) (c : Configuration) :
    Except ClientError (Gateway × H) := do
  let endpoints ← c.readEndpoints
  let headers ← headers c
  let opened ← (library c.timeout headers).mapError notOpened
  pure (⟨endpoints, c.apiKey⟩, opened)

def ofConfiguration (c : Configuration) : Except ClientError Gateway :=
  (connect (fun _ _ => .ok ()) c).map Prod.fst

def withoutSlashes (cs : List Char) : List Char := cs.dropWhile (· = '/')

def join (base path : List Char) : List Char :=
  let base := (withoutSlashes base.reverse).reverse
  if path = [] then base else base ++ '/' :: withoutSlashes path

def uri (g : Gateway) (service : Service) (path : String) : String :=
  String.ofList (join (g.endpoints.url service).text.toList path.toList)

end Gateway

/-- What can be said of a URI before any request: it can be asked for, or it is refused, and
then it is known by its URL if it is one. Credentials are taken out of a URL before that. -/
inductive Target
  | web (uri : String)
  | refused (url : Option String)
  deriving DecidableEq, Repr

namespace Target

def isWeb (u : Url) : Bool := u.scheme = "http" || u.scheme = "https"

def isNameChar (c : Char) : Bool := c.isAlphanum || "-._~!$&'()*+,;=".toList.contains c

/-- A name may hold more than a request can: quotes and braces. Addresses are always fit. -/
def isFitHost : Host → Bool
  | .name s => s.toList.all isNameChar
  | _ => true

def longest : Nat := 65534

def canAsk (u : Url) : Bool := isWeb u && u.host.all isFitHost && u.text.utf8ByteSize ≤ longest

def ofUri (uri : String) : Target :=
  match Url.parse uri with
  | .ok u =>
    let u := u.withoutCredentials
    if canAsk u then .web uri else .refused (some u.text)
  | .error _ => .refused none

end Target
end Tronkit
