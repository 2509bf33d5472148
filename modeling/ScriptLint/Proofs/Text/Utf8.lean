import Mathlib.Data.List.Basic
import ScriptLint.Text.Utf8

/-!
# Reading back encoded texts

One step of reading takes exactly the bytes of one encoded character, whatever
follows them.  Hence reading an encoded text gives the text, strictly as well as
leniently.
-/

namespace ScriptLint.Utf8

@[simp]
theorem encode_nil : encode [] = [] := rfl

@[simp]
theorem encode_cons (char : Char) (text : List Char) :
    encode (char :: text) = String.utf8EncodeChar char ++ encode text := rfl

@[simp]
theorem encode_append (left right : List Char) :
    encode (left ++ right) = encode left ++ encode right := by
  simp [encode]

theorem length_encode_cons (char : Char) (text : List Char) :
    (encode (char :: text)).length = char.utf8Size + (encode text).length := by
  simp [String.length_utf8EncodeChar]

private theorem toNat_byte {value : Nat} (small : value < 256) :
    (UInt8.ofNat value).toNat = value := by
  rw [UInt8.toNat_ofNat', Nat.mod_eq_of_lt small]

private theorem isContinuation_byte (value : Nat) :
    isContinuation (UInt8.ofNat (value % 64 + 128)) = true := by
  simp only [isContinuation, Bool.and_eq_true, decide_eq_true_eq,
    UInt8.le_iff_toNat_le, toNat_byte (show value % 64 + 128 < 256 by omega)]
  change 128 ≤ value % 64 + 128 ∧ value % 64 + 128 ≤ 191
  omega

private theorem step_one {value : Nat} (small : value < 0x80) (rest : List UInt8) :
    step (UInt8.ofNat value) rest = .char (Char.ofNat value) 0 := by
  have size : (UInt8.ofNat value).toNat = value := toNat_byte (by omega)
  have low : UInt8.ofNat value < 0x80 := by
    simpa [UInt8.lt_iff_toNat_lt, size] using small
  simp only [step, if_pos low, size]

private theorem step_two {value : Nat} (low : 0x80 ≤ value) (high : value < 0x800)
    (rest : List UInt8) :
    step (UInt8.ofNat (value / 64 % 32 + 192))
        (UInt8.ofNat (value % 64 + 128) :: rest) =
      .char (Char.ofNat value) 1 := by
  have first := toNat_byte (show value / 64 % 32 + 192 < 256 by omega)
  have second := toNat_byte (show value % 64 + 128 < 256 by omega)
  have spelled : join ((value / 64 % 32 + 192) % 32)
      [UInt8.ofNat (value % 64 + 128)] = Char.ofNat value := by
    simp only [join, List.foldl_cons, List.foldl_nil, second]
    congr 1
    omega
  unfold step
  simp only [UInt8.lt_iff_toNat_lt, first, isContinuation_byte, spelled,
    UInt8.reduceToNat, Bool.or_eq_true, decide_eq_true_eq, if_true]
  rw [if_neg (by omega), if_neg (by omega), if_pos (by omega)]

/-- The second byte of a character that is not overlong, a surrogate or too
large is accepted. -/
private theorem mayFollow_three {value : Nat} (low : 0x800 ≤ value)
    (high : value < 0x10000) (apart : value < 55296 ∨ 57343 < value) :
    mayFollow (UInt8.ofNat (value / 4096 % 16 + 224))
      (UInt8.ofNat (value / 64 % 64 + 128)) = true := by
  have first := toNat_byte (show value / 4096 % 16 + 224 < 256 by omega)
  have second := toNat_byte (show value / 64 % 64 + 128 < 256 by omega)
  simp only [mayFollow, isContinuation, ← UInt8.toNat_inj, UInt8.le_iff_toNat_le,
    first, second, UInt8.reduceToNat]
  split
  · simp only [Bool.and_eq_true, decide_eq_true_eq]
    omega
  · split
    · simp only [Bool.and_eq_true, decide_eq_true_eq]
      omega
    · rw [if_neg (by omega), if_neg (by omega)]
      simp only [Bool.and_eq_true, decide_eq_true_eq]
      omega

private theorem step_three {value : Nat} (low : 0x800 ≤ value)
    (high : value < 0x10000) (apart : value < 55296 ∨ 57343 < value)
    (rest : List UInt8) :
    step (UInt8.ofNat (value / 4096 % 16 + 224))
        (UInt8.ofNat (value / 64 % 64 + 128) ::
          UInt8.ofNat (value % 64 + 128) :: rest) =
      .char (Char.ofNat value) 2 := by
  have first := toNat_byte (show value / 4096 % 16 + 224 < 256 by omega)
  have second := toNat_byte (show value / 64 % 64 + 128 < 256 by omega)
  have third := toNat_byte (show value % 64 + 128 < 256 by omega)
  have spelled : join ((value / 4096 % 16 + 224) % 16)
      [UInt8.ofNat (value / 64 % 64 + 128), UInt8.ofNat (value % 64 + 128)] =
        Char.ofNat value := by
    simp only [join, List.foldl_cons, List.foldl_nil, second, third]
    congr 1
    omega
  unfold step
  simp only [UInt8.lt_iff_toNat_lt, first, isContinuation_byte, spelled,
    mayFollow_three low high apart, UInt8.reduceToNat, Bool.or_eq_true,
    decide_eq_true_eq, if_true, Bool.not_true, Bool.false_eq_true, if_false]
  rw [if_neg (by omega), if_neg (by omega), if_neg (by omega), if_pos (by omega)]

private theorem mayFollow_four {value : Nat} (low : 0x10000 ≤ value)
    (high : value < 1114112) :
    mayFollow (UInt8.ofNat (value / 262144 % 8 + 240))
      (UInt8.ofNat (value / 4096 % 64 + 128)) = true := by
  have first := toNat_byte (show value / 262144 % 8 + 240 < 256 by omega)
  have second := toNat_byte (show value / 4096 % 64 + 128 < 256 by omega)
  simp only [mayFollow, isContinuation, ← UInt8.toNat_inj, UInt8.le_iff_toNat_le,
    first, second, UInt8.reduceToNat]
  rw [if_neg (by omega), if_neg (by omega)]
  split
  · simp only [Bool.and_eq_true, decide_eq_true_eq]
    omega
  · split
    · simp only [Bool.and_eq_true, decide_eq_true_eq]
      omega
    · simp only [Bool.and_eq_true, decide_eq_true_eq]
      omega

private theorem step_four {value : Nat} (low : 0x10000 ≤ value)
    (high : value < 1114112) (rest : List UInt8) :
    step (UInt8.ofNat (value / 262144 % 8 + 240))
        (UInt8.ofNat (value / 4096 % 64 + 128) ::
          UInt8.ofNat (value / 64 % 64 + 128) ::
            UInt8.ofNat (value % 64 + 128) :: rest) =
      .char (Char.ofNat value) 3 := by
  have first := toNat_byte (show value / 262144 % 8 + 240 < 256 by omega)
  have second := toNat_byte (show value / 4096 % 64 + 128 < 256 by omega)
  have third := toNat_byte (show value / 64 % 64 + 128 < 256 by omega)
  have fourth := toNat_byte (show value % 64 + 128 < 256 by omega)
  have spelled : join ((value / 262144 % 8 + 240) % 8)
      [UInt8.ofNat (value / 4096 % 64 + 128), UInt8.ofNat (value / 64 % 64 + 128),
        UInt8.ofNat (value % 64 + 128)] = Char.ofNat value := by
    simp only [join, List.foldl_cons, List.foldl_nil, second, third, fourth]
    congr 1
    omega
  unfold step
  simp only [UInt8.lt_iff_toNat_lt, first, isContinuation_byte, spelled,
    mayFollow_four low high, UInt8.reduceToNat, Bool.or_eq_true,
    decide_eq_true_eq, if_true, Bool.not_true, Bool.false_eq_true, if_false]
  rw [if_neg (by omega), if_neg (by omega), if_neg (by omega), if_neg (by omega)]

/-- One step of reading takes an encoded character as a whole. -/
theorem step_utf8EncodeChar (char : Char) (rest : List UInt8) :
    ∃ first tail, String.utf8EncodeChar char = first :: tail ∧
      step first (tail ++ rest) = .char char tail.length := by
  have bounds : char.val.toNat < 55296 ∨
      57343 < char.val.toNat ∧ char.val.toNat < 1114112 := char.valid
  have itself : Char.ofNat char.val.toNat = char := Char.ofNat_toNat char
  unfold String.utf8EncodeChar
  generalize char.val.toNat = value at bounds itself
  dsimp only
  subst itself
  split
  · exact ⟨_, _, rfl, step_one (by omega) rest⟩
  · split
    · exact ⟨_, _, rfl, step_two (by omega) (by omega) rest⟩
    · split
      · exact ⟨_, _, rfl, step_three (by omega) (by omega) (by omega) rest⟩
      · exact ⟨_, _, rfl, step_four (by omega) (by omega) rest⟩

theorem pieces_encode_append (text : List Char) (rest : List UInt8) :
    pieces (encode text ++ rest) =
      text.map (fun char => .char char char.utf8Size) ++ pieces rest := by
  induction text with
  | nil => rfl
  | cons char text induction =>
      obtain ⟨first, tail, encoded, read⟩ :=
        step_utf8EncodeChar char (encode text ++ rest)
      have size : tail.length + 1 = char.utf8Size := by
        rw [← String.length_utf8EncodeChar, encoded, List.length_cons]
      rw [encode_cons, encoded, List.append_assoc, List.cons_append, pieces, read]
      simp only [List.drop_left, size, induction, List.map_cons, List.cons_append]

theorem pieces_encode (text : List Char) :
    pieces (encode text) = text.map fun char => .char char char.utf8Size := by
  simpa [pieces] using pieces_encode_append text []

/-- Lenient reading gives back an encoded text. -/
@[simp]
theorem decodeLossy_encode (text : List Char) : decodeLossy (encode text) = text := by
  simp [decodeLossy, pieces_encode, Function.comp_def, Piece.shown]

private theorem readPieces_chars (position : Nat) (text : List Char) :
    readPieces position (text.map fun char => .char char char.utf8Size) =
      .ok text := by
  induction text generalizing position with
  | nil => rfl
  | cons char rest induction => simp [readPieces, induction]

/-- Strict reading gives back an encoded text. -/
@[simp]
theorem decode_encode (text : List Char) : decode (encode text) = .ok text := by
  rw [decode, pieces_encode, readPieces_chars]

theorem encodeFrom_eq_ok_iff {position : Nat} {text : List CodePoint} {bytes : List UInt8} :
    encodeFrom position text = .ok bytes ↔
      ∃ chars : List Char, text = chars.map .char ∧ bytes = encode chars := by
  induction text generalizing position bytes with
  | nil =>
      constructor
      · intro encoded
        exact ⟨[], rfl, (Except.ok.inj encoded).symm⟩
      · rintro ⟨chars, none, rfl⟩
        obtain rfl := List.map_eq_nil_iff.mp none.symm
        rfl
  | cons point rest induction =>
      cases point with
      | surrogate offset =>
          refine iff_of_false (by simp [encodeFrom]) ?_
          rintro ⟨chars, whole, -⟩
          cases chars with
          | nil => simp at whole
          | cons char chars => simp at whole
      | char value =>
          constructor
          · intro encoded
            rw [encodeFrom] at encoded
            split at encoded
            · rename_i others onward
              obtain ⟨chars, rfl, rfl⟩ := induction.mp onward
              exact ⟨value :: chars, rfl, (Except.ok.inj encoded).symm⟩
            · simp at encoded
          · rintro ⟨chars, whole, rfl⟩
            cases chars with
            | nil => simp at whole
            | cons char chars =>
                obtain ⟨same, rfl⟩ := List.cons.inj whole
                obtain rfl := CodePoint.char.inj same
                have onward : encodeFrom (position + 1) (chars.map .char) = .ok (encode chars) :=
                  induction.mpr ⟨chars, rfl, rfl⟩
                rw [encodeFrom, onward, encode_cons]

theorem encodeStrict_eq_ok_iff {text : List CodePoint} {bytes : List UInt8} :
    encodeStrict text = .ok bytes ↔
      ∃ chars : List Char, text = chars.map .char ∧ bytes = encode chars :=
  encodeFrom_eq_ok_iff

end ScriptLint.Utf8
