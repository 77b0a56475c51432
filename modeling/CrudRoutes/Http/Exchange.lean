import CrudRoutes.Fault
import CrudRoutes.Text.Blank
import CrudRoutes.Text.Case

/-!
HTTP requests and responses as the router sees them.

A request has a method, a target path as sent, a raw query string, a body and an
`Authorization` header. A response has a status and a body that is either a JSON value or
plain text.

Failures answer with `{statusCode, message, error}`, where `error` is the status text. A client
fault shows its own message: a bad envelope, a missing document and a duplicate key are
`400`, a missing identity `401`, a refusal `403`; every other fault is a `500` whose message
says only `Internal server error`.
-/

namespace CrudRoutes.Http

/-- A request as received. -/
structure Request where
  method : String
  path : String
  query : String := ""
  body : String := ""
  authorization : String := ""
  deriving Inhabited

/-- The body of a response. -/
inductive Body where
  | json (v : Value)
  | text (s : String)
  deriving Inhabited

/-- A response. -/
structure Response where
  status : Nat
  body : Body
  deriving Inhabited

def maxBodyBytes : Nat := 1048576

def statusText : Nat → String
  | 100 => "Continue"
  | 101 => "Switching Protocols"
  | 102 => "Processing"
  | 103 => "Early Hints"
  | 200 => "OK"
  | 201 => "Created"
  | 202 => "Accepted"
  | 203 => "Non-Authoritative Information"
  | 204 => "No Content"
  | 205 => "Reset Content"
  | 206 => "Partial Content"
  | 207 => "Multi-Status"
  | 208 => "Already Reported"
  | 226 => "IM Used"
  | 300 => "Multiple Choices"
  | 301 => "Moved Permanently"
  | 302 => "Found"
  | 303 => "See Other"
  | 304 => "Not Modified"
  | 305 => "Use Proxy"
  | 307 => "Temporary Redirect"
  | 308 => "Permanent Redirect"
  | 400 => "Bad Request"
  | 401 => "Unauthorized"
  | 402 => "Payment Required"
  | 403 => "Forbidden"
  | 404 => "Not Found"
  | 405 => "Method Not Allowed"
  | 406 => "Not Acceptable"
  | 407 => "Proxy Authentication Required"
  | 408 => "Request Timeout"
  | 409 => "Conflict"
  | 410 => "Gone"
  | 411 => "Length Required"
  | 412 => "Precondition Failed"
  | 413 => "Request Entity Too Large"
  | 414 => "Request URI Too Long"
  | 415 => "Unsupported Media Type"
  | 416 => "Requested Range Not Satisfiable"
  | 417 => "Expectation Failed"
  | 418 => "I\x27m a teapot"
  | 421 => "Misdirected Request"
  | 422 => "Unprocessable Entity"
  | 423 => "Locked"
  | 424 => "Failed Dependency"
  | 425 => "Too Early"
  | 426 => "Upgrade Required"
  | 428 => "Precondition Required"
  | 429 => "Too Many Requests"
  | 431 => "Request Header Fields Too Large"
  | 451 => "Unavailable For Legal Reasons"
  | 500 => "Internal Server Error"
  | 501 => "Not Implemented"
  | 502 => "Bad Gateway"
  | 503 => "Service Unavailable"
  | 504 => "Gateway Timeout"
  | 505 => "HTTP Version Not Supported"
  | 506 => "Variant Also Negotiates"
  | 507 => "Insufficient Storage"
  | 508 => "Loop Detected"
  | 510 => "Not Extended"
  | 511 => "Network Authentication Required"
  | _ => ""

def Response.ofJson (status : Nat) (v : Value) : Response :=
  { status, body := .json v }

def Response.failure (status : Nat) (message : String) : Response :=
  .ofJson status (.obj [("statusCode", .int status), ("message", .str message),
    ("error", .str (statusText status))])

def statusOf (f : Fault) : Nat :=
  match f.client? with
  | some (.invalidEnvelope, _) | some (.notFound, _) | some (.duplicateKey, _) => 400
  | some (.unauthorized, _) => 401
  | some (.forbidden, _) => 403
  | none => 500

def Response.ofFault (f : Fault) : Response :=
  match f.client? with
  | some (_, message) => .failure (statusOf f) message
  | none => .failure 500 "Internal server error"

def bearerToken (header : String) : String :=
  if (Text.lowerAll header).startsWith "bearer " then Text.trimBlanks (header.drop 7).toString
  else ""

end CrudRoutes.Http
