import DesktopAgent.Agent.Computer
import DesktopAgent.Agent.Config
import DesktopAgent.Client.Response
import DesktopAgent.Client.Status
import DesktopAgent.Text.Base64
import DesktopAgent.Text.Utf8
import DesktopAgent.Url.Reader

/-!
A model behind the Messages API.

Each request is one exchange; nothing is tried again. An exchange gives a status and a text or fails
on the way. A response counts only when its status says success and its text is a response. Every
problem of an exchange is a failure of the model.

What carries the requests, and how it makes texts of the bytes that it gets, is left open, and so is
how the numerals of a text are read.
-/

namespace DesktopAgent.Client

/-- The settings of a client. -/
structure Config where
  apiBase : String
  apiKey : String
  apiVersion : String
  timeoutMs : Option Nat
deriving DecidableEq, Repr

/-- The settings for an environment, in which `ANTHROPIC_BASE_URL` and `ANTHROPIC_API_KEY` may be
set. -/
def Config.ofEnvironment (environment : Environment) : Config where
  apiBase := (environment "ANTHROPIC_BASE_URL").getD "https://api.anthropic.com/v1"
  apiKey := (environment "ANTHROPIC_API_KEY").getD ""
  apiVersion := "2023-06-01"
  timeoutMs := none

inductive SetupProblem where
  | missingKey
deriving DecidableEq, Repr

def SetupProblem.message : SetupProblem → String
  | .missingKey => "ANTHROPIC_API_KEY missing"

end DesktopAgent.Client

namespace DesktopAgent

/-- A client: settings with a key. -/
structure Client where
  config : Client.Config
  hasKey : config.apiKey ≠ ""

end DesktopAgent

namespace DesktopAgent.Client

def ofConfig (config : Config) : Except SetupProblem Client :=
  if hasKey : config.apiKey ≠ "" then .ok ⟨config, hasKey⟩ else .error .missingKey

/-- A request as it is sent. -/
structure HttpRequest where
  url : Url
  headers : List (String × String)
  body : Json
deriving Repr

/-- A response that arrived, with its body as a text. -/
structure HttpResponse where
  status : Nat
  text : String
deriving DecidableEq, Repr

/-- What carries requests, with states in `ν`: it gives a response, or says why the request was not
sent or no text came back whole. -/
structure Transport (ν : Type) where
  exchange : HttpRequest → ν → Except String HttpResponse × ν

inductive CallProblem where
  | url (problem : UrlProblem)
  | scheme (url : Url)
  | target (url : Url)
  | headerValue
  | transfer (reason : String)
  | status (code : Nat) (body : String)
  | body (problem : BodyProblem)
deriving Repr

def CallProblem.message : CallProblem → String
  | .url problem => "builder error: " ++ problem.message
  | .scheme refused => "builder error for url (" ++ refused.text ++ "): URL scheme is not allowed"
  | .target refused =>
      "builder error for url (" ++ refused.text ++ "): Parsed Url is not a valid Uri"
  | .headerValue => "builder error: failed to parse header value"
  | .transfer reason => reason
  | .status code said => "Anthropic error " ++ Status.describe code ++ ": " ++ said
  | .body problem => problem.message

def CallProblem.failure (problem : CallProblem) : Failure := .model problem.message

def isHeaderValue (text : String) : Bool :=
  text.toList.all fun c => c = '\t' || (0x20 ≤ c.toNat && c.toNat ≠ 0x7F)

def endpoint (config : Config) : String :=
  String.ofList ((config.apiBase.toList.reverse.dropWhile (· = '/')).reverse) ++ "/messages"

/-- The credentials that are sent for those of a URL, without their escapes. A name that is no text
is not sent, nor is a password that is none. -/
def sentCredentials? (credentials : Url.Credentials) : Option (String × String) := do
  let username ← Url.unescapedText? credentials.username.toList
  let password := credentials.password.bind fun password => Url.unescapedText? password.toList
  if username.isEmpty && password.isNone then none else some (username, password.getD "")

/-- The header that names who asks. -/
def authorization (username password : String) : String × String :=
  ("authorization",
    "Basic " ++ Text.Base64.encode (Text.Utf8.encode (username ++ ":" ++ password)))

def headers (config : Config) (request : Request) : List (String × String) :=
  [("x-api-key", config.apiKey), ("anthropic-version", config.apiVersion),
    ("content-type", "application/json")] ++
  if request.betas.isEmpty then [] else [("anthropic-beta", ",".intercalate request.betas)]

/-- Whether a request can name a URL: a request takes no URL of more than 65534 bytes, and none
whose host has a character that is escaped in a path. -/
def isRequestable (url : Url) : Bool :=
  url.text.utf8ByteSize < 65535 &&
    url.host?.all fun host => !host.text.toList.any Url.pathSpecial.contains

/-- Builds the request that is sent. A URL without a host is refused before the headers are looked
at, one of another scheme after that. The credentials of a URL are sent as a header instead. -/
def prepare (config : Config) (request : Request) : Except CallProblem HttpRequest :=
  match Url.read (endpoint config) with
  | .error problem => .error (.url problem)
  | .ok url =>
      if url.host?.isNone then .error (.scheme url)
      else
        let (url, identity) :=
          match sentCredentials? url.credentials with
          | some (username, password) =>
              (url.withoutCredentials, [authorization username password])
          | none => (url, [])
        if (headers config request).any fun header => !isHeaderValue header.2 then
          .error .headerValue
        else if url.scheme ≠ "http" ∧ url.scheme ≠ "https" then .error (.scheme url)
        else if !isRequestable url then .error (.target url)
        else .ok ⟨url, identity ++ headers config request, request.encode⟩

variable (numbers : Json.NumberReading)

def interpret (response : HttpResponse) : Except CallProblem Turn :=
  if Status.isSuccess response.status then
    match Response.read numbers response.text with
    | .ok blocks => .ok (.assistant blocks)
    | .error problem => .error (.body problem)
  else .error (.status response.status response.text)

/-- The turn that an exchange gives. -/
def receive : Except String HttpResponse → Except CallProblem Turn
  | .ok response => interpret numbers response
  | .error reason => .error (.transfer reason)

variable {ν : Type} (transport : Transport ν)

/-- Asks for one turn. -/
def createMessage (client : Client) (request : Request) (state : ν) :
    Except CallProblem Turn × ν :=
  match prepare client.config request with
  | .error problem => (.error problem, state)
  | .ok sent =>
      let (received, state) := transport.exchange sent state
      (receive numbers received, state)

def model (client : Client) : Model ν where
  reply request state :=
    match client.createMessage numbers transport request state with
    | (.ok turn, state) => (.ok turn, state)
    | (.error problem, state) => (.error problem.failure, state)

end DesktopAgent.Client
