import DesktopAgent.Url.Address

/-!
URLs.

A URL has a scheme, a path and, depending on the scheme, an authority, which names a host. Its parts
are kept as they are written, in the form that reading gives them.
-/

namespace DesktopAgent

namespace Url

/-- What an authority names: a host by its name, or by an address of 32 or of 128 bits. -/
inductive Host where
  | name (text : String)
  | ipv4 (address : Nat)
  | ipv6 (groups : List Nat)
deriving DecidableEq, Repr

def Host.text : Host → String
  | .name text => text
  | .ipv4 address => String.ofList (ipv4Text address)
  | .ipv6 groups => String.ofList (['['] ++ ipv6Text groups ++ [']'])

/-- Who asks: a name, which may be empty, and a password. -/
structure Credentials where
  username : String
  password : Option String
deriving DecidableEq, Repr

/-- No credentials. -/
def Credentials.none : Credentials := ⟨"", .none⟩

def Credentials.isNone (credentials : Credentials) : Bool :=
  credentials.username.isEmpty && credentials.password.isNone

def Credentials.text (credentials : Credentials) : String :=
  if credentials.isNone then ""
  else credentials.username ++ (credentials.password.map (":" ++ ·)).getD "" ++ "@"

/-- An authority. The port is missing when it is the one that the scheme has by itself. -/
structure Authority where
  credentials : Credentials
  host : Option Host
  port : Option Nat
deriving DecidableEq, Repr

def Authority.empty : Authority := ⟨.none, .none, .none⟩

def Authority.text (authority : Authority) : String :=
  authority.credentials.text ++ (authority.host.map Host.text).getD "" ++
    (authority.port.map fun port => ":" ++ Text.Numeral.text port).getD ""

end Url

/-- A URL. The authority is missing when the scheme is followed by a path. -/
structure Url where
  scheme : String
  authority : Option Url.Authority
  path : String
  query : Option String
  fragment : Option String
deriving DecidableEq, Repr

namespace Url

def host? (url : Url) : Option Host := url.authority.bind (·.host)

def credentials (url : Url) : Credentials := (url.authority.map (·.credentials)).getD .none

def withoutCredentials (url : Url) : Url :=
  { url with authority := url.authority.map fun authority =>
      { authority with credentials := .none } }

@[simp]
theorem host?_withoutCredentials (url : Url) : url.withoutCredentials.host? = url.host? := by
  cases authority : url.authority with
  | none => simp [host?, withoutCredentials, authority]
  | some _ => simp [host?, withoutCredentials, authority]

/-- What is asked of the host: the path and the query. -/
def target (url : Url) : String := url.path ++ (url.query.map ("?" ++ ·)).getD ""

/-- What stands between the scheme and the path. Where there is no authority, a path must not look
as if it began with one. -/
def hostPart (url : Url) : String :=
  match url.authority with
  | some authority => "//" ++ authority.text
  | none => if url.path.startsWith "//" then "/." else ""

def text (url : Url) : String :=
  url.scheme ++ ":" ++ url.hostPart ++ url.target ++ (url.fragment.map ("#" ++ ·)).getD ""

end Url

end DesktopAgent
