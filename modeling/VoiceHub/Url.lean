import VoiceHub.Url.Host
import VoiceHub.Url.Syntax

/-!
Absolute addresses.

`Url.parse?` brings an address into its normal form: the scheme in lower case, the
host as it is sent, no standard port, no dots in the path, and what may not stand
in a part of it spelled as bytes.  A request can be sent to the address of a web
server only.
-/

namespace VoiceHub

structure Url where
  scheme : Url.Scheme
  user : List Char := []
  password : List Char := []
  /-- Absent if the path follows the scheme at once. -/
  host : Option Url.Host := none
  port : Option Nat := none
  path : List Char
  query : Option (List Char) := none
  fragment : Option (List Char) := none

namespace Url

section Reading

/-- Controls and blanks at the ends do not count, nor do line breaks and tabs anywhere. -/
def clean (s : List Char) : List Char :=
  let isOuter (c : Char) : Bool := c ≤ ' '
  let s := ((s.dropWhile isOuter).reverse.dropWhile isOuter).reverse
  s.filter fun c => c ≠ '\t' && c ≠ '\n' && c ≠ '\r'

/-- What stands before a mark, and what after it if it is there. -/
def splitAt (mark : Char) (s : List Char) : List Char × Option (List Char) :=
  let before := s.takeWhile (· ≠ mark)
  (before, skip? mark (s.drop before.length))

/-- The host ends at a colon outside of brackets. -/
def takeHost (inBrackets : Bool) : List Char → List Char
  | [] => []
  | c :: s =>
      if c = ':' && !inBrackets then []
      else c :: takeHost (if c = '[' then true else if c = ']' then false else inBrackets) s

/-- The port to be written; the standard one is not. -/
def port? (scheme : Scheme) (ds : List Char) : Option (Option Nat) :=
  let port := Decimal.value ds
  if ds = [] then some none
  else if port < 65536 then some (if scheme.standardPort? = some port then none else some port)
  else none

def dropSlash (scheme : Scheme) (s : List Char) : List Char :=
  if (s.head?.map (Path.isSlash scheme)).getD false then s.drop 1 else s

/-- The path after a server, which may be missing if the scheme is not known. -/
def serverPath (scheme : Scheme) (s : List Char) : List Char :=
  if s = [] && !scheme.isKnown then [] else Path.chars (Path.normal scheme (dropSlash scheme s))

/-- An address from its server on.  Whoever asks may stand before the host. -/
def ofServer? (scheme : Scheme) (s : List Char) : Option Url := do
  let server := s.takeWhile (!Path.isSlash scheme ·)
  let place := (server.reverse.takeWhile (· ≠ '@')).reverse
  let credentials := server.take (server.length - place.length)
  let (user, password) := splitAt ':' credentials.dropLast
  let password := password.getD []
  let name := takeHost false place
  let port := place.drop name.length
  let digits := (port.drop 1).takeWhile Char.isDigit
  let rest := port.drop (digits.length + 1)
  let isNamed := user ≠ [] || password ≠ [] || credentials = ['@']
  if name = [] && (scheme.isKnown || port ≠ [] || isNamed) then none
  if rest ≠ [] && rest.head? ≠ some '\\' then none
  return { scheme
           user := Percent.encode Percent.userSet user
           password := Percent.encode Percent.userSet password
           host := some (← Host.ofChars? scheme name)
           port := ← port? scheme digits
           path := serverPath scheme (rest ++ s.drop server.length) }

def noHost : Host := .name []

def localName : List Char := "localhost".toList

/-- An address of a file on the own host, which has no name. -/
def ofOwnFile (s : List Char) : Url :=
  { scheme := .file
    host := some noHost
    path := Path.fileChars (Path.normal .file (dropSlash .file s)) }

/-- An address of a file on a host; that of a drive has no name either. -/
def ofFileHost? (s : List Char) : Option Url :=
  let name := s.takeWhile (!Path.isSlash .file ·)
  if name = [] || Path.isDrive name then some (ofOwnFile s)
  else do
    let host ← Host.ofChars? .file name
    let rest := s.drop name.length
    if host = .name localName then return ofOwnFile rest
    let segments := Path.normal .file (dropSlash .file rest)
    return { scheme := .file
             host := some (if Path.hasDrive segments then noHost else host)
             path := Path.fileChars segments }

def ofFile? (s : List Char) : Option Url :=
  let rest := dropSlash .file s
  let rest' := dropSlash .file rest
  if rest.length < s.length ∧ rest'.length < rest.length then ofFileHost? rest'
  else some (ofOwnFile s)

/-- An address of an unknown scheme: with a server, with a path, or with neither. -/
def ofOther? (scheme : Scheme) : List Char → Option Url
  | '/' :: '/' :: s => ofServer? scheme s
  | '/' :: s =>
      let path := Path.chars (Path.normal scheme s)
      some { scheme, path := if ['/', '/'].isPrefixOf path then ['/', '.'] ++ path else path }
  | s => some { scheme, path := Percent.encode [] s }

def parse? (s : String) : Option Url := do
  let (scheme, s) ← Scheme.take? (clean s.toList)
  let (s, fragment) := splitAt '#' s
  let (s, query) := splitAt '?' s
  let url ← match scheme with
    | .server _ _ => ofServer? scheme (s.dropWhile (Path.isSlash scheme))
    | .file => ofFile? s
    | .other _ => ofOther? scheme s
  let querySet := if scheme.isKnown then Percent.knownQuerySet else Percent.querySet
  return { url with
           query := query.map (Percent.encode querySet)
           fragment := fragment.map (Percent.encode Percent.fragmentSet) }

end Reading

section Writing

def credentialChars (u : Url) : List Char :=
  if u.user = [] ∧ u.password = [] then []
  else u.user ++ (if u.password = [] then [] else ':' :: u.password) ++ ['@']

def serverChars (u : Url) : List Char :=
  match u.host with
  | none => []
  | some host =>
      ['/', '/'] ++ u.credentialChars ++ host.chars ++
        (u.port.map fun port => ':' :: Decimal.digits port).getD []

def chars (u : Url) : List Char :=
  u.scheme.name.toList ++ ':' :: u.serverChars ++ u.path ++
    (u.query.map fun query => '?' :: query).getD [] ++
    (u.fragment.map fun fragment => '#' :: fragment).getD []

def text (u : Url) : String := String.ofList u.chars

end Writing

section Asking

def isText (s : List Char) : Bool := (Utf8.decode (Percent.decode s)).isOk

/-- Without who asks, if that can be read as text. -/
def withoutCredentials (u : Url) : Url :=
  if isText u.user && (u.user ≠ [] || isText u.password) then { u with user := [], password := [] }
  else u

/-- The address of the server. -/
def server (u : Url) : Url := { u with path := ['/'], query := none, fragment := none }

/-- The bytes that the address of a request may have. -/
def lengthLimit : Nat := 65534

/-- Whether a request can be sent to it. -/
def canBeAsked (u : Url) : Bool :=
  u.scheme.isWeb && (u.host.map Host.canBeAsked).getD false && u.text.utf8ByteSize ≤ lengthLimit

end Asking

end Url

end VoiceHub
