import VoiceHub.Text.Alphanumeric
import VoiceHub.Text.Composition
import VoiceHub.Text.Folding
import VoiceHub.Text.Mark
import VoiceHub.Text.Printable
import VoiceHub.Url.Punycode

/-!
Names of servers, in the form that is sent.

A name is folded and composed, and a label with a character beyond ASCII is
spelled out after `xn--`.  A label that comes spelled out has to be the spelling
of what it would be folded and composed.

If a name has a character that runs to the left, each of its labels begins with a
letter and keeps to the direction of that letter, up to a digit or a letter at
its end.

Characters that are not seen and only join or part their neighbours may stand after a
mark that joins consonants; one that parts may also stand between letters that would
be joined otherwise.
-/

namespace VoiceHub.Url

inductive Direction where
  | left
  | right
  | arabicDigit
  | digit
  | mark
  | neutral
  deriving DecidableEq, Repr

namespace Direction

def rightChars : Text.Table := .parse "
  590 5be 5c0 5c3 5c6 5c8~38 608 60b 60d 61b~30 66d~3 671~65 6e5~2 6ee~2 6fa~17 712~1e 74b~5b 7b1~3a
  7f4~2 7fa~3 7fe~18 81a 824 828 82e~2b 85c~34 892~6 8a0~2a 200f fb1d fb1f~a fb2a~214 fd50~7f fdf0~d
  fe70~8f 10800~11f 10920~e1 10a04 10a07~5 10a10~28 10a3b~4 10a40~a5 10ae7~52 10b40~1e4 10d28~8
  10d3a~126 10e7f~2c 10ead~50 10f00~46 10f51~31 10f86~7a 1e800~d0 1e8d7~6d 1e94b~5a5 1eef2~10e"

def arabicDigits : Text.Table := .parse
  "600~6 660~a 66b~2 6dd 890~2 8e2 10d30~a 10e60~1f"

def digits : Text.Table := .parse
  "30~a b2~2 b9 6f0~a 2070 2074~6 2080~a 2488~14 ff10~a 102e1~1b 1d7ce~32 1f100~b 1fbf0~a"

def ofChar (c : Char) : Direction :=
  if digits.contains c then .digit
  else if arabicDigits.contains c then .arabicDigit
  else if rightChars.contains c then .right
  else if Text.isMark c then .mark
  else if Text.isAlphanumeric c then .left
  else .neutral

/-- It makes the whole name one with a direction. -/
def isRight (d : Direction) : Bool := d = .right || d = .arabicDigit

/-- Whether the label keeps to one direction. -/
def isUniform (label : List Direction) : Bool :=
  let last := (label.reverse.dropWhile (· = .mark)).head?
  match label.head? with
  | none => true
  | some .right =>
      !label.contains .left && !(label.contains .digit && label.contains .arabicDigit) &&
        [some .right, some .digit, some .arabicDigit].contains last
  | some .left => !label.any isRight && [some .left, some .digit].contains last
  | some _ => false

end Direction

/-- A rule for names with a character that runs to the left. -/
def keepsDirection (labels : List (List Char)) : Bool :=
  let directions := labels.map fun label => label.map Direction.ofChar
  !directions.any (·.any Direction.isRight) || directions.all Direction.isUniform

end VoiceHub.Url

namespace VoiceHub.Url.Joiner

def joiner : Char := '\u200d'

def parter : Char := '\u200c'

/-- Letters that join to both sides. -/
def twoSided : Text.Table := .parse "
  620 626 628 62a~5 633~d 641~7 649~2 66e~2 678~10 69a~26 6c1~2 6cc 6ce 6d0~2 6fa~3 6ff 712~3 71a~4
  71f~9 729 72b 72d~2 74e~b 75c~f 76d~4 772 775~3 77a~6 7ca~21 841~5 848 84a~a 855 860 862~4 868 886
  889~5 8a0~a 8af~2 8b3~6 8ba~f 1807 1820~59 1887~22 18aa a840~32 10ac0~5 10ad3~4 10ad8~5 10ade~3
  10aeb~4 10b80 10b82 10b86~3 10b8a~2 10b8d 10b90 10bad~2 10d01~21 10d23 10f30~3 10f34~11 10f51~3
  10f70~4 10f76~c 10fb0 10fb2~2 10fb8 10fbb~2 10fbe~2 10fc1 10fc4 10fca 1e900~44"

/-- Letters that join only to the letter before them. -/
def joinsBefore : Text.Table := .parse "
  622~4 627 629 62f~4 648 671~3 675~3 688~12 6c0 6c3~9 6cd 6cf 6d2~2 6d5 6ee~2 710 715~5 71e 728 72a
  72c 72f 74d 759~3 76b~2 771 773~2 778~2 840 846~2 849 854 856~3 867 869~2 870~13 88e 8aa~3 8ae
  8b1~2 8b9 10ac5 10ac7 10ac9~2 10ace~5 10add 10ae1 10ae4 10aef 10b81 10b83~3 10b89 10b8c 10b8e~2
  10b91 10ba9~4 10d22 10f33 10f54 10f74~2 10fb4~3 10fb9~2 10fbd 10fc2~2 10fc9"

/-- Letters that join only to the letter after them. -/
def joinsAfter : Text.Table := .parse
  "a872 10acd 10ad7 10d00 10fcb"

/-- The letter that counts, past the marks that letters join through. -/
def neighbour? (s : List Char) : Option Char := (s.dropWhile Text.isMark).head?

def parts (before after : List Char) : Bool :=
  ((neighbour? before).map fun c => twoSided.contains c || joinsAfter.contains c).getD false &&
    ((neighbour? after).map fun c => twoSided.contains c || joinsBefore.contains c).getD false

def isAfterMark (before : List Char) : Bool :=
  match before with
  | [] => false
  | mark :: _ => Text.markClass mark = Text.joiningClass

/-- Whether each of them is in its place; `before` has the last character first. -/
def areInPlace (before : List Char) : List Char → Bool
  | [] => true
  | c :: s =>
      (if c = joiner then isAfterMark before
        else if c = parter then isAfterMark before || parts before s
        else true) && areInPlace (c :: before) s

end VoiceHub.Url.Joiner

namespace VoiceHub.Url.Domain

/-- Characters of ASCII that no name has. -/
def forbidden : List Char := "%#/:<>?@[\\]^|".toList

/-- Characters that show and still have no place in a name. -/
def withoutPlace : Text.Table := .parse "2ff0~10 31ef fffc~2"

def mayStand (c : Char) : Bool :=
  if c.toNat < 0x80 then ' ' < c && c ≠ '\x7f' && !forbidden.contains c
  else (Text.isPrintable c || Text.isMark c || c = Joiner.joiner || c = Joiner.parter) &&
    !withoutPlace.contains c

def isAscii (label : List Char) : Bool := label.all (·.toNat < 0x80)

def spelledMark : List Char := ['x', 'n', '-', '-']

/-- The characters of a label that may be spelled out. -/
def readLabel? (label : List Char) : Option (List Char) :=
  if spelledMark.isPrefixOf label then
    if !isAscii label then none
    else (Punycode.decode? (label.drop spelledMark.length)).filter fun s =>
      !isAscii s && Text.compose (s.flatMap Text.fold) = s
  else some label

def isValidLabel (label : List Char) : Bool :=
  label.all mayStand && !(label.head?.map Text.isMark).getD false && Joiner.areInPlace [] label

def writeLabel (label : List Char) : List Char :=
  if isAscii label then label else spelledMark ++ Punycode.encode label

def normal? (name : List Char) : Option (List Char) := do
  let labels ← ((Text.compose (name.flatMap Text.fold)).splitOn '.').mapM readLabel?
  if labels.all isValidLabel && keepsDirection labels then
    return List.intercalate ['.'] (labels.map writeLabel)
  else none

end VoiceHub.Url.Domain
