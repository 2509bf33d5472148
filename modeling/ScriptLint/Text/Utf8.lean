/-!
# UTF-8

Encoding of texts as bytes and decoding of bytes that need not be well formed.
A malformed sequence is the longest start of a character's encoding that the
bytes at hand hold, or a single byte if no character starts with it.  Reading
strictly stops at the first malformed sequence; reading leniently puts one
replacement character for each.  Texts in memory may hold surrogates that stand
alone, and such a text has no encoding.
-/

namespace ScriptLint.Utf8

def encode (text : List Char) : List UInt8 :=
  text.flatMap String.utf8EncodeChar

/-- What is wrong with a malformed sequence. -/
inductive Flaw where
  | invalidStart
  | invalidContinuation
  | unexpectedEnd
deriving DecidableEq, Repr

namespace Flaw

def text : Flaw → String
  | invalidStart => "invalid start byte"
  | invalidContinuation => "invalid continuation byte"
  | unexpectedEnd => "unexpected end of data"

end Flaw

/-- One step of reading: a character with the number of its bytes less one, or
a flaw with the number of malformed bytes less one. -/
inductive Step where
  | char (value : Char) (more : Nat)
  | flaw (kind : Flaw) (more : Nat)
deriving DecidableEq, Repr

/-- Whether a byte continues a character. -/
def isContinuation (byte : UInt8) : Bool :=
  0x80 ≤ byte && byte ≤ 0xBF

/-- Whether a byte may follow the first byte of a character of three or four
bytes.  The bounds leave out overlong forms, surrogates and values that are
too large. -/
def mayFollow (first second : UInt8) : Bool :=
  if first = 0xE0 then 0xA0 ≤ second && second ≤ 0xBF
  else if first = 0xED then 0x80 ≤ second && second ≤ 0x9F
  else if first = 0xF0 then 0x90 ≤ second && second ≤ 0xBF
  else if first = 0xF4 then 0x80 ≤ second && second ≤ 0x8F
  else isContinuation second

/-- The value that a first byte's low bits and continuation bytes spell. -/
def join (lead : Nat) (tail : List UInt8) : Char :=
  Char.ofNat (tail.foldl (fun value byte => value * 64 + byte.toNat % 64) lead)

/-- Reads one character or one malformed sequence. -/
def step (first : UInt8) (rest : List UInt8) : Step :=
  if first < 0x80 then .char (Char.ofNat first.toNat) 0
  else if first < 0xC2 || 0xF4 < first then .flaw .invalidStart 0
  else if first < 0xE0 then
    match rest with
    | [] => .flaw .unexpectedEnd 0
    | second :: _ =>
        if isContinuation second then .char (join (first.toNat % 32) [second]) 1
        else .flaw .invalidContinuation 0
  else if first < 0xF0 then
    match rest with
    | [] => .flaw .unexpectedEnd 0
    | second :: rest =>
        if !mayFollow first second then .flaw .invalidContinuation 0
        else
          match rest with
          | [] => .flaw .unexpectedEnd 1
          | third :: _ =>
              if isContinuation third then
                .char (join (first.toNat % 16) [second, third]) 2
              else .flaw .invalidContinuation 1
  else
    match rest with
    | [] => .flaw .unexpectedEnd 0
    | second :: rest =>
        if !mayFollow first second then .flaw .invalidContinuation 0
        else
          match rest with
          | [] => .flaw .unexpectedEnd 1
          | third :: rest =>
              if !isContinuation third then .flaw .invalidContinuation 1
              else
                match rest with
                | [] => .flaw .unexpectedEnd 2
                | fourth :: _ =>
                    if isContinuation fourth then
                      .char (join (first.toNat % 8) [second, third, fourth]) 3
                    else .flaw .invalidContinuation 2

/-- A piece of a byte sequence: a character, or a malformed sequence. -/
inductive Piece where
  | char (value : Char) (size : Nat)
  | flaw (kind : Flaw) (bytes : List UInt8)
deriving DecidableEq, Repr

/-- Cuts bytes into characters and malformed sequences. -/
def pieces : List UInt8 → List Piece
  | [] => []
  | first :: rest =>
      match step first rest with
      | .char value more => .char value (more + 1) :: pieces (rest.drop more)
      | .flaw kind more =>
          .flaw kind (first :: rest.take more) :: pieces (rest.drop more)
termination_by bytes => bytes.length
decreasing_by
  all_goals simp only [List.length_drop, List.length_cons]; omega

/-- A failure of strict reading: the flaw, where it starts and its bytes. -/
structure DecodeError where
  flaw : Flaw
  position : Nat
  bytes : List UInt8
deriving DecidableEq, Repr

private def hexDigit (value : Nat) : Char :=
  if value < 10 then Char.ofNat (0x30 + value) else Char.ofNat (0x57 + value)

/-- Two lower-case hexadecimal digits. -/
def hexByte (byte : UInt8) : String :=
  String.ofList [hexDigit (byte.toNat / 16), hexDigit (byte.toNat % 16)]

/-- The wording of a decoding failure names one byte by its value and several
bytes by the positions of the first and the last. -/
def DecodeError.message (error : DecodeError) : String :=
  let start := toString error.position
  match error.bytes with
  | [byte] =>
      "'utf-8' codec can't decode byte 0x" ++ hexByte byte ++ " in position " ++
        start ++ ": " ++ error.flaw.text
  | bytes =>
      "'utf-8' codec can't decode bytes in position " ++ start ++ "-" ++
        toString (error.position + bytes.length - 1) ++ ": " ++ error.flaw.text

/-- The characters of pieces that start at a position, up to the first flaw. -/
def readPieces (position : Nat) : List Piece → Except DecodeError (List Char)
  | [] => .ok []
  | .char value size :: rest =>
      match readPieces (position + size) rest with
      | .ok text => .ok (value :: text)
      | .error error => .error error
  | .flaw kind bytes :: _ => .error ⟨kind, position, bytes⟩

def decode (bytes : List UInt8) : Except DecodeError (List Char) :=
  readPieces 0 (pieces bytes)

/-- The character that a piece shows when flaws are tolerated. -/
def Piece.shown : Piece → Char
  | .char value _ => value
  | .flaw _ _ => '\ufffd'

def decodeLossy (bytes : List UInt8) : List Char :=
  (pieces bytes).map Piece.shown

/-- A place in a text as programs hold it: a character, or a surrogate by itself. -/
inductive CodePoint where
  | char (value : Char)
  | surrogate (offset : Fin 0x800)
deriving DecidableEq, Repr

/-- A failure of encoding: where surrogates start, and how far they are from the first
one there is. -/
structure EncodeError where
  position : Nat
  surrogates : List (Fin 0x800)
deriving DecidableEq, Repr

/-- The wording of an encoding failure names one surrogate by its value and several
by the positions of the first and the last. -/
def EncodeError.message (error : EncodeError) : String :=
  let start := toString error.position
  match error.surrogates with
  | [offset] =>
      "'utf-8' codec can't encode character '\\u" ++
        hexByte (UInt8.ofNat (0xD8 + offset.val / 256)) ++
        hexByte (UInt8.ofNat (offset.val % 256)) ++ "' in position " ++ start ++
        ": surrogates not allowed"
  | surrogates =>
      "'utf-8' codec can't encode characters in position " ++ start ++ "-" ++
        toString (error.position + surrogates.length - 1) ++ ": surrogates not allowed"

/-- The surrogates that a text starts with. -/
def leadingSurrogates : List CodePoint → List (Fin 0x800)
  | .surrogate offset :: rest => offset :: leadingSurrogates rest
  | _ => []

/-- The bytes of a text that starts at a position, up to the first surrogate. -/
def encodeFrom (position : Nat) : List CodePoint → Except EncodeError (List UInt8)
  | [] => .ok []
  | .char value :: rest =>
      match encodeFrom (position + 1) rest with
      | .ok bytes => .ok (String.utf8EncodeChar value ++ bytes)
      | .error error => .error error
  | .surrogate offset :: rest => .error ⟨position, offset :: leadingSurrogates rest⟩

/-- The UTF-8 bytes of a text in memory. -/
def encodeStrict (text : List CodePoint) : Except EncodeError (List UInt8) :=
  encodeFrom 0 text

end ScriptLint.Utf8
