import ScriptLint.Text.Quoted
import ScriptLint.Text.Utf8

/-!
# MD5 digests

The digest of a byte sequence by four words of thirty-two bits.  The message is
padded with one bit, zeros and its length, and its blocks of sixteen words are
folded into the state by sixty-four steps each.
-/

namespace ScriptLint.Md5

/-- The four words of the state. -/
structure State where
  a : UInt32
  b : UInt32
  c : UInt32
  d : UInt32
deriving DecidableEq, Repr

/-- The state before the first block. -/
def initial : State :=
  ⟨0x67452301, 0xefcdab89, 0x98badcfe, 0x10325476⟩

/-- The constants of the steps: the integer parts of the sines of one to
sixty-four, scaled by two to the thirty-second. -/
def sines : List UInt32 :=
  [
    0xd76aa478, 0xe8c7b756, 0x242070db, 0xc1bdceee,
    0xf57c0faf, 0x4787c62a, 0xa8304613, 0xfd469501,
    0x698098d8, 0x8b44f7af, 0xffff5bb1, 0x895cd7be,
    0x6b901122, 0xfd987193, 0xa679438e, 0x49b40821,
    0xf61e2562, 0xc040b340, 0x265e5a51, 0xe9b6c7aa,
    0xd62f105d, 0x02441453, 0xd8a1e681, 0xe7d3fbc8,
    0x21e1cde6, 0xc33707d6, 0xf4d50d87, 0x455a14ed,
    0xa9e3e905, 0xfcefa3f8, 0x676f02d9, 0x8d2a4c8a,
    0xfffa3942, 0x8771f681, 0x6d9d6122, 0xfde5380c,
    0xa4beea44, 0x4bdecfa9, 0xf6bb4b60, 0xbebfbc70,
    0x289b7ec6, 0xeaa127fa, 0xd4ef3085, 0x04881d05,
    0xd9d4d039, 0xe6db99e5, 0x1fa27cf8, 0xc4ac5665,
    0xf4292244, 0x432aff97, 0xab9423a7, 0xfc93a039,
    0x655b59c3, 0x8f0ccc92, 0xffeff47d, 0x85845dd1,
    0x6fa87e4f, 0xfe2ce6e0, 0xa3014314, 0x4e0811a1,
    0xf7537e82, 0xbd3af235, 0x2ad7d2bb, 0xeb86d391
  ]

/-- The rotations of the four steps that repeat in each round. -/
def rotations : List (List UInt32) :=
  [[7, 12, 17, 22], [5, 9, 14, 20], [4, 11, 16, 23], [6, 10, 15, 21]]

def rotate (word amount : UInt32) : UInt32 :=
  (word <<< amount) ||| (word >>> (32 - amount))

/-- The mixing function of a step and the index of the word that it takes. -/
def mix (step : Nat) (state : State) : UInt32 × Nat :=
  let ⟨_, b, c, d⟩ := state
  if step < 16 then ((b &&& c) ||| (~~~b &&& d), step)
  else if step < 32 then ((d &&& b) ||| (~~~d &&& c), (5 * step + 1) % 16)
  else if step < 48 then (b ^^^ c ^^^ d, (3 * step + 5) % 16)
  else (c ^^^ (b ||| ~~~d), (7 * step) % 16)

def advance (block : Array UInt32) (state : State) (step : Nat) (sine : UInt32) :
    State :=
  let (mixed, index) := mix step state
  let sum := state.a + mixed + sine + block.getD index 0
  let amount := ((rotations.getD (step / 16) []).getD (step % 4) 0)
  ⟨state.d, state.b + rotate sum amount, state.b, state.c⟩

def steps (block : Array UInt32) : Nat → List UInt32 → State → State
  | _, [], state => state
  | step, sine :: rest, state =>
      steps block (step + 1) rest (advance block state step sine)

def absorb (state : State) (block : Array UInt32) : State :=
  let mixed := steps block 0 sines state
  ⟨state.a + mixed.a, state.b + mixed.b, state.c + mixed.c, state.d + mixed.d⟩

/-- The bytes of a number, least significant first. -/
def littleEndian (value : Nat) : Nat → List UInt8
  | 0 => []
  | count + 1 => UInt8.ofNat (value % 256) :: littleEndian (value / 256) count

def padded (bytes : List UInt8) : List UInt8 :=
  bytes ++ 0x80 ::
    (List.replicate ((119 - bytes.length % 64) % 64) 0 ++
      littleEndian (8 * bytes.length) 8)

/-- The words of a byte sequence, least significant byte first. -/
def words : List UInt8 → List UInt32
  | b0 :: b1 :: b2 :: b3 :: rest =>
      UInt32.ofNat
          (b0.toNat + 256 * (b1.toNat + 256 * (b2.toNat + 256 * b3.toNat))) ::
        words rest
  | _ => []

/-- Folds blocks of sixteen words into the state. -/
def absorbAll (state : State) (content : List UInt32) : State :=
  match content with
  | [] => state
  | word :: rest =>
      absorbAll (absorb state (word :: rest.take 15).toArray) (rest.drop 15)
termination_by content.length
decreasing_by
  simp only [List.length_drop, List.length_cons]
  omega

/-- The digest of bytes in lower-case hexadecimal. -/
def hexDigest (bytes : List UInt8) : String :=
  let final := absorbAll initial (words (padded bytes))
  let output :=
    [final.a, final.b, final.c, final.d].flatMap fun word =>
      littleEndian word.toNat 4
  String.join (output.map Utf8.hexByte)

end ScriptLint.Md5
