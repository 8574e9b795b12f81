import VoiceHub.Numeral

/-!
Bytes read as text.

`next` takes one character off the front or says how many bytes are no part of
one.  `decode` refuses the first fault, `decodeLossy` puts a replacement
character in its place.
-/

namespace VoiceHub.Utf8

inductive Next where
  | done
  | char (c : Char) (rest : List UInt8)
  /-- The first `length` bytes cannot begin a character. -/
  | invalid (length : Nat) (rest : List UInt8)
  /-- The bytes end inside a character. -/
  | incomplete
  deriving DecidableEq, Repr

def isContinuation (b : UInt8) : Bool := 0x80 ≤ b && b < 0xC0

/-- The second byte keeps the character in range, in shortest form and off the surrogates. -/
def mayFollow (first second : UInt8) : Bool :=
  if first = 0xE0 then 0xA0 ≤ second && second < 0xC0
  else if first = 0xED then 0x80 ≤ second && second < 0xA0
  else if first = 0xF0 then 0x90 ≤ second && second < 0xC0
  else if first = 0xF4 then 0x80 ≤ second && second < 0x90
  else isContinuation second

def low (b : UInt8) : Nat := b.toNat % 64

def next : List UInt8 → Next
  | [] => .done
  | a :: rest =>
      if a < 0x80 then .char (Char.ofNat a.toNat) rest
      else if a < 0xC2 ∨ 0xF4 < a then .invalid 1 rest
      else match rest with
        | [] => .incomplete
        | b :: rest' =>
            if !mayFollow a b then .invalid 1 rest
            else if a < 0xE0 then .char (Char.ofNat (a.toNat % 32 * 64 + low b)) rest'
            else match rest' with
              | [] => .incomplete
              | c :: rest'' =>
                  if !isContinuation c then .invalid 2 rest'
                  else if a < 0xF0 then
                    .char (Char.ofNat ((a.toNat % 16 * 64 + low b) * 64 + low c)) rest''
                  else match rest'' with
                    | [] => .incomplete
                    | d :: rest''' =>
                        if !isContinuation d then .invalid 3 rest''
                        else
                          .char (Char.ofNat
                            (((a.toNat % 8 * 64 + low b) * 64 + low c) * 64 + low d)) rest'''

/-- A fault, with the number of bytes before it. -/
inductive Error where
  | invalid (length index : Nat)
  | incomplete (index : Nat)
  deriving DecidableEq, Repr

def Error.message : Error → String
  | .invalid length index =>
      "invalid utf-8 sequence of " ++ Decimal.text length ++ " bytes from index " ++
        Decimal.text index
  | .incomplete index => "incomplete utf-8 byte sequence from index " ++ Decimal.text index

/-- One step for each character; `steps` bounds their number. -/
def decodeFrom (index : Nat) : Nat → List UInt8 → Except Error (List Char)
  | 0, _ => .ok []
  | steps + 1, bytes =>
      match next bytes with
      | .done => .ok []
      | .char c rest => (decodeFrom (index + c.utf8Size) steps rest).map (c :: ·)
      | .invalid length _ => .error (.invalid length index)
      | .incomplete => .error (.incomplete index)

def decode (bytes : List UInt8) : Except Error String :=
  (decodeFrom 0 (bytes.length + 1) bytes).map String.ofList

def replacement : Char := '\ufffd'

def decodeLossyFrom : Nat → List UInt8 → List Char
  | 0, _ => []
  | steps + 1, bytes =>
      match next bytes with
      | .done => []
      | .char c rest => c :: decodeLossyFrom steps rest
      | .invalid _ rest => replacement :: decodeLossyFrom steps rest
      | .incomplete => [replacement]

def decodeLossy (bytes : List UInt8) : String :=
  String.ofList (decodeLossyFrom (bytes.length + 1) bytes)

def encode (s : String) : List UInt8 := s.toUTF8.toList

end VoiceHub.Utf8
