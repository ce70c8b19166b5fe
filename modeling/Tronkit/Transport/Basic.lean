import Tronkit.Bytes
import Tronkit.Text.Digits

/-!
# Requests and responses

A network offers three services, and a request goes to one of them. What comes back is a response
of the service or a failure on the way. A JSON-RPC call goes to the service itself and is known by
its method.
-/

namespace Tronkit

inductive Service
  | rpc
  | wallet
  | events
  deriving DecidableEq, Repr

def Service.name : Service → String
  | rpc => "rpc"
  | wallet => "fullnode"
  | events => "grid"

structure Request where
  service : Service
  path : String
  method : Option String
  body : Option Bytes
  deriving DecidableEq, Repr

namespace Request

def topic (r : Request) : String := r.method.getD r.path

def get (service : Service) (path : String) : Request := ⟨service, path, none, none⟩

def post (service : Service) (path : String) (body : Bytes) : Request :=
  ⟨service, path, none, some body⟩

def call (method : String) (body : Bytes) : Request := ⟨.rpc, "", some method, some body⟩

end Request

structure Response where
  status : Nat
  body : Bytes
  deriving DecidableEq, Repr

inductive TransportError
  | unreadable (uri reason : String)
  | invalidRequest (reason : String)
  | timeout (uri reason : String)
  | transport (uri reason : String)
  | internal (reason : String)
  deriving DecidableEq, Repr

def TransportError.message : TransportError → String
  | unreadable uri reason => "Error deserializing '" ++ uri ++ "' response: " ++ reason
  | invalidRequest reason => "Invalid request: " ++ reason
  | timeout uri reason => "Request '" ++ uri ++ "' timeout: " ++ reason
  | transport uri reason => "Transport '" ++ uri ++ "' error: " ++ reason
  | internal reason => "Internal error: " ++ reason

namespace Status

def phrases : List (Nat × String) :=
  [(100, "Continue"), (101, "Switching Protocols"), (102, "Processing"), (200, "OK"),
   (201, "Created"), (202, "Accepted"), (203, "Non Authoritative Information"),
   (204, "No Content"), (205, "Reset Content"), (206, "Partial Content"), (207, "Multi-Status"),
   (208, "Already Reported"), (226, "IM Used"), (300, "Multiple Choices"),
   (301, "Moved Permanently"), (302, "Found"), (303, "See Other"), (304, "Not Modified"),
   (305, "Use Proxy"), (307, "Temporary Redirect"), (308, "Permanent Redirect"),
   (400, "Bad Request"), (401, "Unauthorized"), (402, "Payment Required"), (403, "Forbidden"),
   (404, "Not Found"), (405, "Method Not Allowed"), (406, "Not Acceptable"),
   (407, "Proxy Authentication Required"), (408, "Request Timeout"), (409, "Conflict"),
   (410, "Gone"), (411, "Length Required"), (412, "Precondition Failed"),
   (413, "Payload Too Large"), (414, "URI Too Long"), (415, "Unsupported Media Type"),
   (416, "Range Not Satisfiable"), (417, "Expectation Failed"), (418, "I'm a teapot"),
   (421, "Misdirected Request"), (422, "Unprocessable Entity"), (423, "Locked"),
   (424, "Failed Dependency"), (426, "Upgrade Required"), (428, "Precondition Required"),
   (429, "Too Many Requests"), (431, "Request Header Fields Too Large"),
   (451, "Unavailable For Legal Reasons"), (500, "Internal Server Error"),
   (501, "Not Implemented"), (502, "Bad Gateway"), (503, "Service Unavailable"),
   (504, "Gateway Timeout"), (505, "HTTP Version Not Supported"),
   (506, "Variant Also Negotiates"), (507, "Insufficient Storage"), (508, "Loop Detected"),
   (510, "Not Extended"), (511, "Network Authentication Required")]

def text (status : Nat) : String :=
  decimalText status ++ " " ++ (phrases.lookup status).getD "<unknown status code>"

def isSuccess (status : Nat) : Bool := 200 ≤ status && status < 300

end Status
end Tronkit
