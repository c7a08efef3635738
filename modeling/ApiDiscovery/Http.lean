import ApiDiscovery.ApiStatus
import ApiDiscovery.Json.Document
import ApiDiscovery.Text.Utf8
import ApiDiscovery.Uri.Grammar

/-!
Requests and responses. A response either has a text or says that the request was refused; what a
refusal says of itself is taken over if it can be read, and put together from the response otherwise.
-/

namespace ApiDiscovery

inductive RequestError where
  | invalidMethod
  | invalidUri (error : UriError)
  deriving DecidableEq, Repr

def RequestError.message : RequestError → String
  | .invalidMethod => "invalid HTTP method"
  | .invalidUri error => error.message

structure Request where
  method : String
  uri : Uri
  headers : List (String × String)
  body : List UInt8
  deriving DecidableEq, Repr

namespace Request

def isMethodCharacter (character : Char) : Bool :=
  character.isAlphanum || "!#$%&'*+-.^_`|~".toList.contains character

def build (method uri : String) (headers : List (String × String)) (body : List UInt8) :
    Except RequestError Request :=
  if method = "" || !method.toList.all isMethodCharacter then .error .invalidMethod
  else
    match Uri.parse uri with
    | .ok uri => .ok { method, uri, headers, body }
    | .error error => .error (.invalidUri error)

def acceptJson : String × String := ("accept", "application/json")

def contentJson : String × String := ("content-type", "application/json")

def get (uri : String) : Except RequestError Request := build "GET" uri [acceptJson] []

end Request

def reasonPhrase? : Nat → Option String
  | 100 => some "Continue"
  | 101 => some "Switching Protocols"
  | 102 => some "Processing"
  | 103 => some "Early Hints"
  | 200 => some "OK"
  | 201 => some "Created"
  | 202 => some "Accepted"
  | 203 => some "Non Authoritative Information"
  | 204 => some "No Content"
  | 205 => some "Reset Content"
  | 206 => some "Partial Content"
  | 207 => some "Multi-Status"
  | 208 => some "Already Reported"
  | 226 => some "IM Used"
  | 300 => some "Multiple Choices"
  | 301 => some "Moved Permanently"
  | 302 => some "Found"
  | 303 => some "See Other"
  | 304 => some "Not Modified"
  | 305 => some "Use Proxy"
  | 307 => some "Temporary Redirect"
  | 308 => some "Permanent Redirect"
  | 400 => some "Bad Request"
  | 401 => some "Unauthorized"
  | 402 => some "Payment Required"
  | 403 => some "Forbidden"
  | 404 => some "Not Found"
  | 405 => some "Method Not Allowed"
  | 406 => some "Not Acceptable"
  | 407 => some "Proxy Authentication Required"
  | 408 => some "Request Timeout"
  | 409 => some "Conflict"
  | 410 => some "Gone"
  | 411 => some "Length Required"
  | 412 => some "Precondition Failed"
  | 413 => some "Payload Too Large"
  | 414 => some "URI Too Long"
  | 415 => some "Unsupported Media Type"
  | 416 => some "Range Not Satisfiable"
  | 417 => some "Expectation Failed"
  | 418 => some "I'm a teapot"
  | 421 => some "Misdirected Request"
  | 422 => some "Unprocessable Entity"
  | 423 => some "Locked"
  | 424 => some "Failed Dependency"
  | 425 => some "Too Early"
  | 426 => some "Upgrade Required"
  | 428 => some "Precondition Required"
  | 429 => some "Too Many Requests"
  | 431 => some "Request Header Fields Too Large"
  | 451 => some "Unavailable For Legal Reasons"
  | 500 => some "Internal Server Error"
  | 501 => some "Not Implemented"
  | 502 => some "Bad Gateway"
  | 503 => some "Service Unavailable"
  | 504 => some "Gateway Timeout"
  | 505 => some "HTTP Version Not Supported"
  | 506 => some "Variant Also Negotiates"
  | 507 => some "Insufficient Storage"
  | 508 => some "Loop Detected"
  | 510 => some "Not Extended"
  | 511 => some "Network Authentication Required"
  | _ => none

def describeStatus (code : UInt16) : String :=
  toString code.toNat ++ " " ++ (reasonPhrase? code.toNat).getD "<unknown status code>"

structure Response where
  status : UInt16
  body : List UInt8
  deriving DecidableEq, Repr

inductive Refusal where
  | notUtf8 (fault : Text.Utf8Fault)
  | status (status : ApiStatus)
  deriving DecidableEq, Repr

namespace Response

def refuses (response : Response) : Bool := 400 ≤ response.status && response.status ≤ 599

/-- The status that a refusal with a body states: the one that the body holds, or one put together from
the code of the response and its body. -/
def statedStatus (code : UInt16) (text : String) : ApiStatus :=
  match (Document.ofText text).readWith ApiStatus.format.read with
  | .ok status => status
  | .error _ =>
      { status := describeStatus code
        message := Text.quoted text
        reason := "Failed to parse error data"
        code }

def content (response : Response) : Except Refusal String :=
  match Text.Utf8.decode response.body with
  | .error fault => .error (.notUtf8 fault)
  | .ok text =>
      if response.refuses then .error (.status (statedStatus response.status text)) else .ok text

end Response

end ApiDiscovery
