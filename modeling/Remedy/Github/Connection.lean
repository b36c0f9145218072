import Remedy.Json.Codec
import Remedy.Text.Quoted
import Remedy.Text.Utf8

/-!
# Connections to GitHub

Where the interface of a GitHub server is, and how a client presents itself there. The token is a
secret: the text of a connection does not show it.
-/

namespace Remedy.Github

open Json

structure Connection where
  apiUrl : String
  token : Option String
  userAgent : String
  requestTimeoutSeconds : UInt64
deriving DecidableEq

namespace Connection

def publicUrl : String := "https://api.github.com"

def urlVariable : String := "GITHUB_API_URL"
def tokenVariable : String := "GITHUB_TOKEN"

def standardUserAgent : String := "autoheal-github/0.3.1"

/-- Take off the slashes at the end. -/
def trimSlashes (url : String) : String :=
  String.ofList (url.toList.reverse.dropWhile (· == '/')).reverse

/-- A connection to one server, whatever the environment says. -/
def of (url : String) : Connection := ⟨trimSlashes url, none, standardUserAgent, 30⟩

/-- The connection that the environment describes. An empty token is none. -/
def ofEnvironment (lookup : String → Option String) : Connection :=
  { apiUrl := (lookup urlVariable).getD publicUrl
    token := (lookup tokenVariable).filter (· != "")
    userAgent := standardUserAgent
    requestTimeoutSeconds := 30 }

def withToken (c : Connection) (token : String) : Connection := { c with token := some token }

def withTimeout (c : Connection) (seconds : UInt64) : Connection :=
  { c with requestTimeoutSeconds := seconds }

/-- The address that paths are appended to. -/
def baseUrl (c : Connection) : String := trimSlashes c.apiUrl

def fields : List String := ["api_url", "token", "user_agent", "request_timeout_secs"]

instance : Coded Connection where
  encode c := .obj
    [("api_url", encode c.apiUrl), ("token", encode c.token), ("user_agent", encode c.userAgent),
      ("request_timeout_secs", encode c.requestTimeoutSeconds)]
  decode r := do
    let fs ← Fields.of? fields r
    some
      { apiUrl := ← fs.required "api_url"
        token := ← fs.optional "token"
        userAgent := ← fs.required "user_agent"
        requestTimeoutSeconds := ← fs.required "request_timeout_secs" }

/-! ## As text -/

/-- All settings but the token, of which only the presence is shown. -/
def text (c : Connection) : String :=
  let token := match c.token with
    | some _ => "Some(\"<redacted>\")"
    | none => "None"
  "GitHubConfig \x7b api_url: " ++ Text.quoted c.apiUrl ++ ", token: " ++ token
    ++ ", user_agent: " ++ Text.quoted c.userAgent ++ ", request_timeout_secs: "
    ++ toString c.requestTimeoutSeconds.toNat ++ " \x7d"

/-! ## Headers -/

/-- What a header may hold: no control character but the tab. -/
def isHeaderText (s : String) : Bool :=
  (Text.toBytes s).all fun b => b == 9 || (32 ≤ b && b != 127)

/-- Whether a client can present itself like this. -/
def isUsable (c : Connection) : Bool := c.token.all isHeaderText && isHeaderText c.userAgent

/-- Blanks and tabs at the ends are no part of a header. -/
def headerValue (s : String) : String :=
  let strip (cs : List Char) : List Char := cs.dropWhile fun c => c == ' ' || c == '\t'
  String.ofList (strip (strip s.toList).reverse).reverse

/-- The headers of every request. -/
def headers (c : Connection) : List (String × String) :=
  (c.token.map fun t => ("authorization", headerValue ("Bearer " ++ t))).toList
    ++ [("accept", "application/vnd.github+json"), ("user-agent", headerValue c.userAgent),
      ("x-github-api-version", "2022-11-28")]

end Connection

end Remedy.Github
