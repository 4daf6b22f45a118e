import QueryTools.Http.ContentType
import QueryTools.Json.Reader

/-!
# Requests and responses

Every request posts a JSON body.  What comes of it is a `Reply`: a response with a status, headers
and bytes, or the reason why there is none.
-/

namespace QueryTools

/-- A request: a JSON body posted to an address. -/
structure Request where
  url : String
  headers : Keyed String
  body : Json
  deriving Repr

/-- A response. -/
structure Response where
  status : Nat
  /-- The phrase that came with the status. -/
  reason : String
  headers : Keyed String
  body : List UInt8
  deriving Repr

/-- What comes of a request. -/
inductive Reply where
  | response (r : Response)
  /-- No response, for a reason of the named kind. -/
  | failed (kind message : String)
  /-- The address is none that a request can go to. -/
  | unusableAddress (message : String)
  deriving Repr

/-- The usual phrase for a status; empty where there is none. -/
def reasonPhrase : Nat → String
  | 100 => "Continue" | 101 => "Switching Protocols" | 102 => "Processing" | 103 => "Early Hints"
  | 200 => "OK" | 201 => "Created" | 202 => "Accepted" | 203 => "Non-Authoritative Information"
  | 204 => "No Content" | 205 => "Reset Content" | 206 => "Partial Content" | 207 => "Multi-Status"
  | 208 => "Already Reported" | 226 => "IM Used"
  | 300 => "Multiple Choices" | 301 => "Moved Permanently" | 302 => "Found" | 303 => "See Other"
  | 304 => "Not Modified" | 305 => "Use Proxy" | 307 => "Temporary Redirect"
  | 308 => "Permanent Redirect"
  | 400 => "Bad Request" | 401 => "Unauthorized" | 402 => "Payment Required" | 403 => "Forbidden"
  | 404 => "Not Found" | 405 => "Method Not Allowed" | 406 => "Not Acceptable"
  | 407 => "Proxy Authentication Required" | 408 => "Request Timeout" | 409 => "Conflict"
  | 410 => "Gone" | 411 => "Length Required" | 412 => "Precondition Failed"
  | 413 => "Request Entity Too Large" | 414 => "Request-URI Too Long"
  | 415 => "Unsupported Media Type" | 416 => "Requested Range Not Satisfiable"
  | 417 => "Expectation Failed" | 418 => "I'm a teapot" | 421 => "Misdirected Request"
  | 422 => "Unprocessable Entity" | 423 => "Locked" | 424 => "Failed Dependency"
  | 425 => "Too Early" | 426 => "Upgrade Required" | 428 => "Precondition Required"
  | 429 => "Too Many Requests" | 431 => "Request Header Fields Too Large"
  | 451 => "Unavailable For Legal Reasons"
  | 500 => "Internal Server Error" | 501 => "Not Implemented" | 502 => "Bad Gateway"
  | 503 => "Service Unavailable" | 504 => "Gateway Timeout" | 505 => "HTTP Version Not Supported"
  | 506 => "Variant Also Negotiates" | 507 => "Insufficient Storage" | 508 => "Loop Detected"
  | 510 => "Not Extended" | 511 => "Network Authentication Required"
  | _ => ""

/-- Why a body cannot be read. -/
inductive BodyFault where
  | contentType (fault : ContentTypeFault)
  | charset (fault : CharsetFault)
  /-- The body is JSON that nests too deeply. -/
  | nesting (error : Json.ReadError)
  deriving DecidableEq, Repr

/-- The wording of a fault. -/
def BodyFault.message : BodyFault → String
  | .contentType fault => fault.message
  | .charset fault => fault.message
  | .nesting error => error.message

namespace Response

/-- Whether the status reports success. -/
def isSuccess (r : Response) : Bool := 200 ≤ r.status && r.status ≤ 299

/-- The phrase for the status as far as it is ASCII, or the status where there is no phrase. -/
def statusText (r : Response) : String :=
  let phrase := String.ofList (r.reason.toList.filter fun c => c.toNat < 0x80)
  if phrase = "" then toString r.status else phrase

/-- The value of a header, whose name may have any case; it may be given in several lines. -/
def header? (r : Response) (name : String) : Option String :=
  match r.headers.filter fun p => Text.lower p.1 == Text.lower name with
  | [] => none
  | lines => some (", ".intercalate (lines.map Prod.snd))

/-- The body as text. -/
def text (r : Response) : Except BodyFault String :=
  match ContentType.charset (r.header? "content-type") with
  | .error fault => if r.body.isEmpty then .ok "" else .error (.contentType fault)
  | .ok set => (set.decodeLossy r.body).mapError .charset

/-- The characters of a JSON body, if all its bytes can be read.  The width and the order of its units are
told from its first bytes: a byte order mark, or where zero bytes stand among the first four.  Bytes may
spell halves of pairs. -/
def jsonChars? (bytes : List UInt8) : Option (List Char) :=
  let units16 (order : ByteOrder) (bytes : List UInt8) :=
    (Wide.decode16 Wide.charOrHalf? (Wide.units16 order bytes)).mapM id
  let units32 (order : ByteOrder) (bytes : List UInt8) :=
    (Wide.decode32 Wide.charOrHalf? (Wide.units32 order bytes)).mapM id
  match bytes with
  | 0 :: 0 :: 0xfe :: 0xff :: rest => units32 .big rest
  | 0xff :: 0xfe :: 0 :: 0 :: rest => units32 .little rest
  | 0xfe :: 0xff :: rest => units16 .big rest
  | 0xff :: 0xfe :: rest => units16 .little rest
  | 0xef :: 0xbb :: 0xbf :: rest => Utf8.decodeHalvesFrom? 0 rest
  | 0 :: b :: _ :: _ :: _ => if b = 0 then units32 .big bytes else units16 .big bytes
  | _ :: 0 :: c :: d :: _ => if c = 0 ∧ d = 0 then units32 .little bytes else units16 .little bytes
  | [0, _] => units16 .big bytes
  | [_, 0] => units16 .little bytes
  | _ => Utf8.decodeHalvesFrom? 0 bytes

/-- The text of a JSON body, if all its bytes can be read. -/
def jsonText? (bytes : List UInt8) : Option String := (jsonChars? bytes).map String.ofList

/-- The body as a JSON value, if it is one. -/
def json? (r : Response) : Except BodyFault (Option Json) :=
  match (jsonText? r.body).map Json.read with
  | none => .ok none
  | some (.ok v) => .ok (some v)
  | some (.error error) => if error.isTooDeep then .error (.nesting error) else .ok none

end Response

end QueryTools
