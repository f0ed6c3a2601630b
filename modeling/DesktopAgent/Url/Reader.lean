import DesktopAgent.Domain.Ascii
import DesktopAgent.Url.Basic
import DesktopAgent.Url.Path

/-!
Reading URLs.

The schemes of the web always have a host, and a backslash is a slash in their URLs; of a file's
URL the host may be missing. The name of such a host is a domain name. With every other scheme the
host is any text, if two slashes lead to one, and a path that begins with no slash is kept as it is.
-/

namespace DesktopAgent

inductive UrlProblem where
  | relative
  | emptyHost
  | invalidPort
  | invalidIpv4
  | invalidIpv6
  | invalidDomain
  | forbiddenCharacter
deriving DecidableEq, Repr

def UrlProblem.message : UrlProblem → String
  | .relative => "relative URL without a base"
  | .emptyHost => "empty host"
  | .invalidPort => "invalid port number"
  | .invalidIpv4 => "invalid IPv4 address"
  | .invalidIpv6 => "invalid IPv6 address"
  | .invalidDomain => "invalid international domain name"
  | .forbiddenCharacter => "invalid domain character"

namespace Url

open DesktopAgent.Text

/-- Whether URLs of a scheme always have a host. -/
def needsHost (scheme : String) : Bool :=
  ["http", "https", "ws", "wss", "ftp"].contains scheme

def fileScheme : String := "file"

/-- The port that a scheme has by itself. -/
def defaultPort? : String → Option Nat
  | "http" | "ws" => some 80
  | "https" | "wss" => some 443
  | "ftp" => some 21
  | _ => none

def isSchemeChar (c : Char) : Bool :=
  c.isAlphanum || c = '+' || c = '-' || c = '.'

/-- The scheme in lower case and what follows its colon. -/
def readScheme? (text : List Char) : Option (String × List Char) :=
  match text.takeWhile isSchemeChar, text.dropWhile isSchemeChar with
  | first :: rest, ':' :: after =>
      if first.isAlpha then some (String.ofList ((first :: rest).map Char.toLower), after) else none
  | _, _ => none

def readBracketed (host : List Char) : Except UrlProblem Host :=
  match host.drop 1, host.getLast? with
  | address, some ']' =>
      match ipv6? address.dropLast with
      | some groups => .ok (.ipv6 groups)
      | none => .error .invalidIpv6
  | _, _ => .error .invalidIpv6

def readDomain (host : List Char) : Except UrlProblem Host :=
  if host.head? = some '[' then readBracketed host
  else
    match (unescapedText? host).bind fun name => Domain.toAscii? name.toList with
    | none => .error .invalidDomain
    | some [] => .error .emptyHost
    | some name =>
        if endsInNumber name then
          match ipv4? name with
          | some address => .ok (.ipv4 address)
          | none => .error .invalidIpv4
        else .ok (.name (String.ofList name))

/-- The characters that no host of another scheme may hold. -/
def forbiddenInHost : List Char :=
  ['\x00', '\t', '\n', '\r', ' ', '#', '/', ':', '<', '>', '?', '@', '[', '\\', ']', '^', '|']

def readPlainHost (host : List Char) : Except UrlProblem (Option Host) :=
  if host.head? = some '[' then (readBracketed host).map some
  else if host.any forbiddenInHost.contains then .error .forbiddenCharacter
  else if host.isEmpty then .ok none
  else .ok (some (.name (String.ofList (escapeAll [] host))))

def readHost (isWeb : Bool) (host : List Char) : Except UrlProblem (Option Host) :=
  if isWeb then if host.isEmpty then .error .emptyHost else (readDomain host).map some
  else readPlainHost host

def endsAuthority (isWeb : Bool) (c : Char) : Bool :=
  c = '/' || c = '?' || c = '#' || (isWeb && c = '\\')

/-- Reads the credentials before the last sign `@` of an authority, and gives what follows. A sign
with nothing on both sides leaves the host empty. -/
def readCredentials (isWeb : Bool) (text : List Char) :
    Except UrlProblem (Credentials × List Char) :=
  let authority := text.takeWhile fun c => !endsAuthority isWeb c
  if !authority.contains '@' then .ok (.none, text)
  else
    let user := (authority.reverse.dropWhile (· ≠ '@')).tail.reverse
    let rest := text.drop (user.length + 1)
    let shown (part : List Char) : String := String.ofList (escapeAll credentialSpecial part)
    if user.isEmpty && rest.head?.any (endsAuthority isWeb) then .error .emptyHost
    else
      let password := (user.dropWhile (· ≠ ':')).tail
      .ok (⟨shown (user.takeWhile (· ≠ ':')),
        if password.isEmpty then none else some (shown password)⟩, rest)

/-- The host that a text begins with. A colon between brackets belongs to it. -/
def leadingHost (isWeb isBracketed : Bool) : List Char → List Char
  | [] => []
  | c :: rest =>
      if endsAuthority isWeb c || (c = ':' && !isBracketed) then []
      else c :: leadingHost isWeb (c = '[' || (isBracketed && c ≠ ']')) rest

def readPort (scheme : String) (text : List Char) : Except UrlProblem (Option Nat × List Char) :=
  match text with
  | ':' :: after =>
      let digits := after.takeWhile Char.isDigit
      let rest := after.dropWhile Char.isDigit
      let port := Numeral.value digits
      if 65535 < port || rest.head?.any (fun c => !(endsAuthority true c)) then .error .invalidPort
      else
        .ok (if digits.isEmpty || defaultPort? scheme = some port then none else some port, rest)
  | _ => .ok (none, text)

def readAuthority (scheme : String) (text : List Char) :
    Except UrlProblem (Authority × List Char) := do
  let isWeb := needsHost scheme
  let (credentials, text) ← readCredentials isWeb text
  let hostText := leadingHost isWeb false text
  let host ← readHost isWeb hostText
  let rest := text.drop hostText.length
  if host.isNone && rest.head? = some ':' then throw .emptyHost
  let (port, rest) ← readPort scheme rest
  if host.isNone && !credentials.isNone then throw .emptyHost
  return (⟨credentials, host, port⟩, rest)

/-- A part of a text that begins with a sign. -/
def marked (sign : Char) (special : List Char) : List Char → Option String
  | [] => none
  | first :: rest =>
      if first = sign then some (String.ofList (escapeAll special (visible rest))) else none

def endsPath (c : Char) : Bool := c = '?' || c = '#'

/-- The URL whose path, query and fragment are a text. -/
def withRest (scheme : String) (authority : Option Authority) (path : List Char → String)
    (rest : List Char) : Url :=
  let afterPath := rest.dropWhile fun c => !endsPath c
  let special :=
    if needsHost scheme || scheme = fileScheme then '\'' :: querySpecial else querySpecial
  { scheme
    authority
    path := path (rest.takeWhile fun c => !endsPath c)
    query := marked '?' special (afterPath.takeWhile (· ≠ '#'))
    fragment := marked '#' fragmentSpecial (afterPath.dropWhile (· ≠ '#')) }

def endsFileHost (c : Char) : Bool := isEitherSlash c || endsPath c

/-- The URL of a file with a path that is read from a text. -/
def withFilePath (host : Option Host) (path : List Char → String) (text : List Char) : Url :=
  withRest fileScheme (some { Authority.empty with host }) path text

/-- Reads the URL of a file after two slashes. A host that is the machine itself is left out, and a
path that begins with a drive leaves out every host. -/
def readHostedFile (text : List Char) : Except UrlProblem Url := do
  let shown := text.takeWhile fun c => !endsFileHost c
  let name := visible shown
  let rest := text.drop shown.length
  let path (text : List Char) : String := (readFilePath text).1
  if isDrive name then return withFilePath none path text
  if name.isEmpty then return withFilePath none readLocalPath rest
  match ← readDomain name with
  | .name "localhost" => return withFilePath none readLocalPath rest
  | host =>
      let startsWithDrive := (readFilePath (rest.takeWhile fun c => !endsPath c)).2
      return withFilePath (if startsWithDrive then none else some host) path rest

/-- Reads the URL of a file, of which nothing has been dropped yet. -/
def readFile (text : List Char) : Except UrlProblem Url :=
  match visible text with
  | first :: second :: _ =>
      if isEitherSlash first && isEitherSlash second then
        readHostedFile (withoutSlash isEitherSlash (withoutSlash isEitherSlash text))
      else .ok (withFilePath none (fun path => (readFilePath path).1) text)
  | _ => .ok (withFilePath none (fun path => (readFilePath path).1) text)

def isPadding (c : Char) : Bool := c.toNat ≤ 0x20

def withoutPadding (text : List Char) : List Char :=
  ((text.dropWhile isPadding).reverse.dropWhile isPadding).reverse

def readWeb (scheme : String) (text : List Char) : Except UrlProblem Url := do
  let (authority, rest) ← readAuthority scheme (text.dropWhile isEitherSlash)
  return withRest scheme (some authority) (readPath isEitherSlash) rest

def readOther (scheme : String) (text : List Char) : Except UrlProblem Url := do
  let hierarchical (path : List Char) : String := readPath (· = '/') path
  match text with
  | '/' :: '/' :: after =>
      let (authority, rest) ← readAuthority scheme after
      return withRest scheme (some authority)
        (fun path => if path.isEmpty then "" else hierarchical path) rest
  | '/' :: _ => return withRest scheme none hierarchical text
  | _ => return withRest scheme none (fun path => String.ofList (escapeAll [] path)) text

def read (text : String) : Except UrlProblem Url :=
  let text := withoutPadding text.toList
  match readScheme? (visible text) with
  | none => .error .relative
  | some (scheme, after) =>
      if scheme = fileScheme then readFile (text.dropWhile (· ≠ ':')).tail
      else if needsHost scheme then readWeb scheme after
      else readOther scheme after

end Url

end DesktopAgent
