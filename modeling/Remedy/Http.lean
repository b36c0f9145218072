import Remedy.Fault
import Remedy.Program
import Remedy.Text.Hex
import Remedy.Text.Utf8

/-!
# Requests over HTTP

A request has a method and an address, an answer has a status and a body. Reading the body may fail
after the status has come, and some statuses have no body. Redirections of requests are followed up
to a limit.
-/

namespace Remedy.Http

inductive Method where
  | get
  | post
deriving DecidableEq

def Method.name : Method → String
  | .get => "GET"
  | .post => "POST"

structure Request where
  method : Method
  url : String
deriving DecidableEq

structure Response where
  status : UInt16
  location : Option String
  /-- The bytes of the body, or the reason why they did not all come. -/
  body : Except ApiError (List UInt8)

abbrev Answer : Type := Except ApiError Response

/-- Programs that put requests. -/
abbrev Exchange (α : Type) : Type := Program Request (fun _ => Answer) α

def Response.isSuccess (r : Response) : Bool := 200 ≤ r.status && r.status < 300

/-- No body comes with a change of protocol, with no content and with nothing new. -/
def Response.hasBody (r : Response) : Bool :=
  !(r.status == 101 || r.status == 204 || r.status == 304)

/-- A status has three digits, and below 200 it only announces an answer, a change of protocol
apart. -/
def Response.isFinal (r : Response) : Bool :=
  r.status == 101 || (200 ≤ r.status && r.status ≤ 999)

/-- What arrives of an answer. -/
def received : Answer → Answer
  | .error e => .error e
  | .ok r =>
    if !r.isFinal then .error (.network "no answer")
    else if r.hasBody then .ok r
    else .ok { r with body := .ok [] }

/-- The standard phrases for the numbers of statuses. -/
def reasons : List (Nat × String) :=
  [(100, "Continue"), (101, "Switching Protocols"), (102, "Processing"), (200, "OK"),
    (201, "Created"), (202, "Accepted"), (203, "Non Authoritative Information"),
    (204, "No Content"), (205, "Reset Content"), (206, "Partial Content"), (207, "Multi-Status"),
    (208, "Already Reported"), (226, "IM Used"), (300, "Multiple Choices"),
    (301, "Moved Permanently"), (302, "Found"), (303, "See Other"), (304, "Not Modified"),
    (305, "Use Proxy"), (307, "Temporary Redirect"), (308, "Permanent Redirect"),
    (400, "Bad Request"), (401, "Unauthorized"), (402, "Payment Required"), (403, "Forbidden"),
    (404, "Not Found"), (405, "Method Not Allowed"), (406, "Not Acceptable"),
    (407, "Proxy Authentication Required"), (408, "Request Timeout"), (409, "Conflict"),
    (410, "Gone"), (411, "Length Required"), (412, "Precondition Failed"),
    (413, "Payload Too Large"), (414, "URI Too Long"), (415, "Unsupported Media Type"),
    (416, "Range Not Satisfiable"), (417, "Expectation Failed"), (418, "I'm a teapot"),
    (421, "Misdirected Request"), (422, "Unprocessable Entity"), (423, "Locked"),
    (424, "Failed Dependency"), (425, "Too Early"), (426, "Upgrade Required"),
    (428, "Precondition Required"), (429, "Too Many Requests"),
    (431, "Request Header Fields Too Large"), (451, "Unavailable For Legal Reasons"),
    (500, "Internal Server Error"), (501, "Not Implemented"), (502, "Bad Gateway"),
    (503, "Service Unavailable"), (504, "Gateway Timeout"), (505, "HTTP Version Not Supported"),
    (506, "Variant Also Negotiates"), (507, "Insufficient Storage"), (508, "Loop Detected"),
    (510, "Not Extended"), (511, "Network Authentication Required")]

def reason? (status : UInt16) : Option String := reasons.lookup status.toNat

/-! ## Addresses -/

/-- Characters that a path shows by their bytes. -/
def isReserved (inQuery : Bool) (c : Char) : Bool :=
  c ≤ ' ' || '\x7e' < c || c == '"' || c == '<' || c == '>'
    || (if inQuery then c == '\'' else c == '\x60' || c == '\x7b' || c == '\x7d')

def percent (inQuery : Bool) (c : Char) : List Char :=
  if isReserved inQuery c then
    (Text.toBytes (String.ofList [c])).flatMap fun b =>
      '%' :: (Text.hexByte b).map Char.toUpper
  else [c]

/-- Text between slashes. -/
def segments : List Char → List (List Char)
  | [] => [[]]
  | c :: cs =>
    if c == '/' || c == '\\' then [] :: segments cs
    else match segments cs with
      | s :: rest => (c :: s) :: rest
      | [] => [[c]]

/-- One or two points, which may be written by their bytes, name a segment by its place. -/
def points? (segment : List Char) : Option Nat :=
  match String.ofList (segment.map Char.toLower) with
  | "." | "%2e" => some 1
  | ".." | ".%2e" | "%2e." | "%2e%2e" => some 2
  | _ => none

/-- Resolve segments that name others by their place. -/
def resolve : List (List Char) → List (List Char) → List (List Char)
  | done, [] => done.reverse
  | done, [last] =>
    match points? last with
    | some 1 => ([] :: done).reverse
    | some _ => ([] :: done.drop 1).reverse
    | none => (last :: done).reverse
  | done, s :: rest =>
    match points? s with
    | some 1 => resolve done rest
    | some _ => resolve (done.drop 1) rest
    | none => resolve (s :: done) rest

/-- Split an address after its authority. -/
def splitOrigin (url : List Char) : List Char × List Char :=
  match url.span (· != ':') with
  | (scheme, ':' :: '/' :: '/' :: rest) =>
    let (authority, path) := rest.span fun c => c != '/' && c != '\\' && c != '?' && c != '#'
    (scheme ++ "://".toList ++ authority, path)
  | _ => ([], url)

/-- Tabs and line ends are no part of an address. -/
def Request.address (r : Request) : List Char :=
  r.url.toList.filter fun c => c != '\t' && c != '\n' && c != '\r'

/-- Whether the port, if there is one, is a number of 16 bits. -/
def Request.hasPort (r : Request) : Bool :=
  let last := ((splitOrigin r.address).1.reverse.takeWhile fun c => c != ':' && c != ']').reverse
  last.take 2 == ['/', '/'] || (last.all Char.isDigit && Decimal.ofDigits last ≤ 65535)

/-- The path and query that a request names to the server. -/
def Request.target (r : Request) : String :=
  let (before, _) := (splitOrigin r.address).2.span (· != '#')
  let (path, query) := before.span (· != '?')
  let path := match path with
    | c :: rest => if c == '/' || c == '\\' then rest else path
    | [] => []
  String.ofList ((resolve [] (segments path)).flatMap
    (fun s => '/' :: s.flatMap (percent false)) ++ query.flatMap (percent true))

/-! ## Redirections -/

/-- The longest chain of redirections that is followed. -/
def maxRedirections : Nat := 10

def redirects (status : UInt16) : Bool :=
  status == 301 || status == 302 || status == 303 || status == 307 || status == 308

/-- The directory of a path. -/
def directory (path : List Char) : List Char :=
  match (path.reverse.dropWhile (· != '/')).reverse with
  | [] => ['/']
  | d => d

/-- The address that a redirection names, from the address that was asked: a whole one, a path, a
query, or a path that starts in the same directory. -/
def relocate (url location : String) : String :=
  let l := location.toList
  let (origin, rest) := splitOrigin url.toList
  let path := rest.takeWhile fun c => c != '?' && c != '#'
  if !(splitOrigin l).1.isEmpty then location
  else match l with
    | [] | '#' :: _ => url
    | '/' :: _ => String.ofList (origin ++ l)
    | '?' :: _ => String.ofList (origin ++ path ++ l)
    | _ => String.ofList (origin ++ directory path ++ l)

/-- What is asked after a redirection, if there is one. -/
def Response.next? (asked : Request) (r : Response) : Option Request :=
  if redirects r.status then
    r.location.map fun l =>
      ⟨if r.status == 307 || r.status == 308 then asked.method else .get, relocate asked.url l⟩
  else none

/-- Put a request and follow its redirections. -/
def follow : Nat → Request → Exchange Answer
  | 0, _ => .done (.error (.network "too many redirections"))
  | left + 1, request => do
    match received (← Program.request request) with
    | .error e => return .error e
    | .ok r =>
      match r.next? request with
      | some request => follow left request
      | none => return .ok r

/-- A transport that follows redirections. An address without a server is not asked. -/
def following (request : Request) : Exchange Answer :=
  if request.hasPort then follow (maxRedirections + 1) request
  else .done (.error (.network "the address has no port of this number"))

end Remedy.Http
