import VoiceHub.Numeral
import VoiceHub.Text.Utf8

/-!
Parts of an address: the scheme at its front, characters that are spelled as bytes,
and the path.

Controls and what is beyond ASCII are always spelled, as two hexadecimal digits after
a percent sign for each byte; each part of an address has a set of other characters
that are.

A path is a list of segments between slashes.  A single dot stands for nothing,
and a double one takes away the segment before it, unless that is the letter of a
drive.  In paths of files a drive at the front is written with a colon.
-/

namespace VoiceHub.Url

/-- What the scheme tells about the rest of an address. -/
inductive Scheme where
  /-- A server with a standard port. -/
  | server (name : String) (port : Nat)
  | file
  | other (name : String)
  deriving DecidableEq, Repr

namespace Scheme

def isSchemeChar (c : Char) : Bool := c.isAlphanum || c = '+' || c = '-' || c = '.'

def name : Scheme → String
  | .server name _ => name
  | .file => "file"
  | .other name => name

/-- Addresses of known kinds may have backslashes for slashes, and always have a path. -/
def isKnown : Scheme → Bool
  | .other _ => false
  | _ => true

def standardPort? : Scheme → Option Nat
  | .server _ port => some port
  | _ => none

/-- What requests can be sent to. -/
def isWeb (s : Scheme) : Bool := s.name = "http" || s.name = "https"

def ofName (name : String) : Scheme :=
  if name = "http" ∨ name = "ws" then .server name 80
  else if name = "https" ∨ name = "wss" then .server name 443
  else if name = "ftp" then .server name 21
  else if name = "file" then .file
  else .other name

/-- A scheme in any case and what follows its colon. -/
def take? (s : List Char) : Option (Scheme × List Char) :=
  let name := s.takeWhile isSchemeChar
  match name, s.drop name.length with
  | c :: _, ':' :: rest =>
      if c.isAlpha then some (ofName (String.ofList (name.map Char.toLower)), rest) else none
  | _, _ => none

end Scheme

end VoiceHub.Url

namespace VoiceHub.Url.Percent

def fragmentSet : List Char := [' ', '"', '<', '>', '`']

def querySet : List Char := [' ', '"', '#', '<', '>']

/-- For queries of known schemes. -/
def knownQuerySet : List Char := '\'' :: querySet

def pathSet : List Char := fragmentSet ++ ['#', '?', '\x7b', '\x7d']

def userSet : List Char := pathSet ++ ['/', ':', ';', '=', '@', '[', '\\', ']', '^', '|']

def spellByte (b : UInt8) : List Char := ['%', Hex.upper (b.toNat / 16), Hex.upper (b.toNat % 16)]

def encode (spelled : List Char) (s : List Char) : List Char :=
  s.flatMap fun c =>
    if c < ' ' || '~' < c || spelled.contains c then
      (Utf8.encode (String.singleton c)).flatMap spellByte
    else [c]

/-- A percent sign without two digits stands for itself. -/
def decode : List Char → List UInt8
  | [] => []
  | '%' :: a :: b :: s =>
      if Hex.isDigit a && Hex.isDigit b then (Hex.value [a, b]).toUInt8 :: decode s
      else '%'.toUInt8 :: decode (a :: b :: s)
  | c :: s => Utf8.encode (String.singleton c) ++ decode s

end VoiceHub.Url.Percent

namespace VoiceHub.Url.Path

abbrev Segment := List Char

/-- A slash, and a backslash where the scheme is known. -/
def isSlash (scheme : Scheme) (c : Char) : Bool := c = '/' || c = '\\' && scheme.isKnown

def segments (scheme : Scheme) : List Char → List Segment
  | [] => [[]]
  | c :: s =>
      if isSlash scheme c then [] :: segments scheme s
      else match segments scheme s with
        | [] => [[c]]
        | first :: rest => (c :: first) :: rest

def spelledDot : Segment := ['%', '2', 'e']

def isSingleDot (s : Segment) : Bool := s = ['.'] || s.map Char.toLower = spelledDot

def isDoubleDot (s : Segment) : Bool :=
  let s := s.map Char.toLower
  s = ['.', '.'] || s = '.' :: spelledDot || s = spelledDot ++ ['.'] ||
    s = spelledDot ++ spelledDot

/-- The letter of a drive, alone or before a backslash. -/
def isDrive : Segment → Bool
  | letter :: mark :: rest =>
      letter.isAlpha && (mark = ':' || mark = '|') && (rest = [] || rest.head? = some '\\')
  | _ => false

/-- Takes the last segment away; `done` has it first. -/
def shorten (done : List Segment) : List Segment :=
  match done with
  | [] => []
  | last :: rest => if isDrive last then done else rest

/-- One segment, at the front of a path of files if `isFront`. -/
def normalSegment ( isFront : Bool) (s : Segment) : Segment :=
  match s with
  | [letter, mark] => if isFront && isDrive [letter, mark] then [letter, ':'] else s
  | _ => s

/-- Resolves the dots; `done` holds the segments so far, the last one first. -/
def resolve (isFile : Bool) (done : List Segment) : List Segment → List Segment
  | [] => done.reverse
  | s :: rest =>
      if isDoubleDot s then
        resolve isFile (if rest = [] then [] :: shorten done else shorten done) rest
      else if isSingleDot s then resolve isFile (if rest = [] then [] :: done else done) rest
      else resolve isFile (normalSegment (isFile && done = []) s :: done) rest

/-- The segments after the first slash. -/
def normal (scheme : Scheme) (s : List Char) : List Segment :=
  resolve (scheme = .file) [] ((segments scheme s).map (Percent.encode Percent.pathSet))

/-- Whether a path of files begins with the letter of a drive. -/
def hasDrive (segments : List Segment) : Bool := (segments.head?.map isDrive).getD false

def chars (segments : List Segment) : List Char := segments.flatMap fun s => '/' :: s

/-- A path of files begins with one slash. -/
def fileChars (segments : List Segment) : List Char :=
  match segments.dropWhile (· = []) with
  | [] => ['/']
  | segments => chars segments

end VoiceHub.Url.Path
