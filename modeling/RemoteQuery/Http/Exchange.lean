import RemoteQuery.Text.Utf8
import RemoteQuery.World

namespace RemoteQuery.Http

/-! What goes over the wire: a request, and what comes back for it. -/

structure Request where
  method : String
  url : String
  headers : List (String × String) := []
  body : String := ""
deriving Repr, DecidableEq, Inhabited

structure Response where
  status : Nat
  /-- The body, in the pieces in which it arrives. -/
  pieces : List (List UInt8) := []
  /-- Why the body breaks off before its end, if it does. -/
  broken : Option String := none
  /-- What a decoder says of the body if it does not hold what was asked for. -/
  undecodable : String := ""
deriving Repr, DecidableEq, Inhabited

inductive Exchange where
  /-- No response came, for a reason. -/
  | unreachable (reason : String)
  | response (response : Response)
deriving Repr, DecidableEq, Inhabited

abbrev Transport (σ : Type) := Request → σ → Answer Exchange × σ

/-- A wire that is cut: no request ever arrives. -/
def unreachable {σ : Type} (reason : String) : Transport σ :=
  fun _ outside => ({ outcome := .unreachable reason }, outside)

namespace Response

def isSuccess (response : Response) : Bool :=
  200 ≤ response.status ∧ response.status ≤ 299

def body (response : Response) : List UInt8 :=
  response.pieces.flatten

/-- The body as text, for a message. A broken body is no text, and a byte order mark is
not part of it. Bodies are UTF-8 here: other encodings, which a header or another mark can
name, are not modelled. -/
def text (response : Response) : String :=
  if response.broken.isSome then ""
  else
    let mark : List UInt8 := [0xEF, 0xBB, 0xBF]
    Text.Utf8.decodeLossy
      (if mark.isPrefixOf response.body then response.body.drop 3 else response.body)

end Response

def reasonPhrases : List (Nat × String) :=
  [(100, "Continue"), (101, "Switching Protocols"), (102, "Processing"), (200, "OK"),
    (201, "Created"), (202, "Accepted"), (203, "Non Authoritative Information"),
    (204, "No Content"), (205, "Reset Content"), (206, "Partial Content"), (207, "Multi-Status"),
    (208, "Already Reported"), (226, "IM Used"), (300, "Multiple Choices"),
    (301, "Moved Permanently"), (302, "Found"), (303, "See Other"), (304, "Not Modified"),
    (305, "Use Proxy"), (307, "Temporary Redirect"), (308, "Permanent Redirect"),
    (400, "Bad Request"), (401, "Unauthorized"), (402, "Payment Required"), (403, "Forbidden"),
    (404, "Not Found"), (405, "Method Not Allowed"), (406, "Not Acceptable"),
    (407, "Proxy Authentication Required"), (408, "Request Timeout"), (409, "Conflict"),
    (410, "Gone"), (411, "Length Required"), (412, "Precondition Failed"),
    (413, "Payload Too Large"), (414, "URI Too Long"), (415, "Unsupported Media Type"),
    (416, "Range Not Satisfiable"), (417, "Expectation Failed"), (418, "I'm a teapot"),
    (421, "Misdirected Request"), (422, "Unprocessable Entity"), (423, "Locked"),
    (424, "Failed Dependency"), (426, "Upgrade Required"), (428, "Precondition Required"),
    (429, "Too Many Requests"), (431, "Request Header Fields Too Large"),
    (451, "Unavailable For Legal Reasons"), (500, "Internal Server Error"),
    (501, "Not Implemented"), (502, "Bad Gateway"), (503, "Service Unavailable"),
    (504, "Gateway Timeout"), (505, "HTTP Version Not Supported"),
    (506, "Variant Also Negotiates"), (507, "Insufficient Storage"), (508, "Loop Detected"),
    (510, "Not Extended"), (511, "Network Authentication Required")]

def statusText (status : Nat) : String :=
  Number.text status ++ " " ++ (reasonPhrases.lookup status).getD "<unknown status code>"

example : statusText 404 = "404 Not Found" := by decide +kernel

def withoutSlashes (url : String) : String :=
  String.ofList (url.toList.reverse.dropWhile (· = '/')).reverse

example : withoutSlashes "http://h/base//" = "http://h/base" := by decide +kernel

/-! ## Headers -/

def isNameCharacter (c : Char) : Bool :=
  ('a' ≤ c ∧ c ≤ 'z') ∨ ('A' ≤ c ∧ c ≤ 'Z') ∨ ('0' ≤ c ∧ c ≤ '9') ∨
    "!#$%&'*+-.^_|~".toList.contains c ∨ c.toNat = 0x60

def isValueByte (byte : UInt8) : Bool :=
  (32 ≤ byte ∧ byte ≠ 127) ∨ byte = 9

/-- A header to be sent, with its name in small letters, or what is wrong with it. -/
def header (name value : String) : Outcome (String × String) :=
  if name.isEmpty ∨ ¬name.toList.all isNameCharacter then
    .error (.programming ("invalid header name " ++ name ++ ": invalid HTTP header name"))
  else if (Text.Utf8.encode value).all isValueByte then
    .ok (String.ofList (name.toList.map Char.toLower), value)
  else .error (.programming "invalid header value: failed to parse header value")

end RemoteQuery.Http
