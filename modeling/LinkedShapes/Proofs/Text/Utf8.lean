import Mathlib.Tactic.SplitIfs
import LinkedShapes.Text.Utf8

/-!
# The bytes of a text spell the text

* `read_encodeChar`: the bytes of a character are read as that character, whatever follows.
* `decode_encode_ok`, `decodeLenient_encode`: hence the bytes of a text are read as that text,
  strictly and leniently.
-/

namespace LinkedShapes.Text.Utf8

variable {n i j : Nat}

/-! ## Bytes -/

theorem toNat_ofNat (h : n < 256) : (UInt8.ofNat n).toNat = n := by
  rw [UInt8.toNat_ofNat', Nat.mod_eq_of_lt h]

theorem isContinuation_ofNat (h : n < 64) : isContinuation (UInt8.ofNat (n + 0x80)) = true := by
  have hn := toNat_ofNat (n := n + 0x80) (by omega)
  simp only [isContinuation, Bool.and_eq_true, decide_eq_true_eq, UInt8.le_iff_toNat_le, hn,
    UInt8.reduceToNat]
  omega

theorem payload_ofNat (h : n < 64) : payload (UInt8.ofNat (n + 0x80)) = n := by
  rw [payload, toNat_ofNat (by omega)]
  omega

/-- The second byte is in its range. -/
theorem not_outside (h : n < 64) (hlow : i ≤ n + 0x80) (hhigh : n + 0x80 ≤ j) (hj : j < 256) :
    (UInt8.ofNat (n + 0x80) < UInt8.ofNat i || UInt8.ofNat j < UInt8.ofNat (n + 0x80)) = false := by
  simp only [Bool.or_eq_false_iff, decide_eq_false_iff_not, UInt8.lt_iff_toNat_lt,
    toNat_ofNat (show n + 0x80 < 256 by omega), toNat_ofNat (show i < 256 by omega),
    toNat_ofNat hj]
  omega

/-! ## Leading bytes -/

theorem not_ascii_ofNat (hlow : 0x80 ≤ n) (hn : n < 256) : ¬ UInt8.ofNat n < 0x80 := by
  rw [UInt8.lt_iff_toNat_lt, toNat_ofNat hn]
  exact Nat.not_lt.2 hlow

theorem lead?_two : ∀ n < 32, 2 ≤ n → lead? (.ofNat (n + 0xC0)) =
    some (2, .ofNat 0x80, .ofNat 0xBF) := by
  decide

/-- The second byte keeps overlong forms and surrogates out. -/
theorem lead?_three : ∀ n < 16, lead? (.ofNat (n + 0xE0)) =
    some (3, .ofNat (if n = 0 then 0xA0 else 0x80), .ofNat (if n = 13 then 0x9F else 0xBF)) := by
  decide

/-- The second byte keeps overlong forms and numbers beyond the last character out. -/
theorem lead?_four : ∀ n < 5, lead? (.ofNat (n + 0xF0)) =
    some (4, .ofNat (if n = 0 then 0x90 else 0x80), .ofNat (if n = 4 then 0x8F else 0xBF)) := by
  decide

/-! ## Characters -/

theorem read_one (h : n < 0x80) (rest : List UInt8) :
    read (.ofNat n) rest = .character (.ofNat n) 1 := by
  have hn := toNat_ofNat (n := n) (by omega)
  rw [read, if_pos (by rw [UInt8.lt_iff_toNat_lt, hn]; exact h), hn]

theorem read_two (hlow : 0x80 ≤ n) (hhigh : n < 0x800) (rest : List UInt8) :
    read (.ofNat (n / 64 % 32 + 0xC0)) (.ofNat (n % 64 + 0x80) :: rest) =
      .character (.ofNat n) 2 := by
  have h₂ : n % 64 < 64 := by omega
  have hvalue : (n / 64 % 32 + 0xC0) % 32 * 64 + n % 64 = n := by omega
  have hin : ¬ (_ || _) = true := Bool.eq_false_iff.1 <|
    not_outside (i := 0x80) (j := 0xBF) h₂ (by omega) (by omega) (by omega)
  rw [read, if_neg (not_ascii_ofNat (by omega) (by omega)), lead?_two _ (by omega) (by omega)]
  dsimp only
  rw [if_neg hin, if_pos rfl, payload_ofNat h₂, toNat_ofNat (by omega), hvalue]

theorem read_three (hlow : 0x800 ≤ n) (hhigh : n < 0x10000) (hn : n < 0xD800 ∨ 0xDFFF < n)
    (rest : List UInt8) :
    read (.ofNat (n / 4096 % 16 + 0xE0))
      (.ofNat (n / 64 % 64 + 0x80) :: .ofNat (n % 64 + 0x80) :: rest) =
      .character (.ofNat n) 3 := by
  have h₂ : n / 64 % 64 < 64 := by omega
  have h₃ : n % 64 < 64 := by omega
  have hvalue : ((n / 4096 % 16 + 0xE0) % 16 * 64 + n / 64 % 64) * 64 + n % 64 = n := by omega
  have hin : ¬ (_ || _) = true := Bool.eq_false_iff.1 <|
    not_outside (i := if n / 4096 % 16 = 0 then 0xA0 else 0x80)
      (j := if n / 4096 % 16 = 13 then 0x9F else 0xBF) h₂
      (by split <;> omega) (by split <;> omega) (by split <;> omega)
  rw [read, if_neg (not_ascii_ofNat (by omega) (by omega)), lead?_three _ (by omega)]
  dsimp only
  rw [if_neg hin, if_neg (by omega), isContinuation_ofNat h₃, if_neg (by decide), if_pos rfl,
    payload_ofNat h₂, payload_ofNat h₃, toNat_ofNat (by omega), hvalue]

theorem read_four (hlow : 0x10000 ≤ n) (hhigh : n < 0x110000) (rest : List UInt8) :
    read (.ofNat (n / 262144 % 8 + 0xF0))
      (.ofNat (n / 4096 % 64 + 0x80) :: .ofNat (n / 64 % 64 + 0x80) :: .ofNat (n % 64 + 0x80) ::
        rest) = .character (.ofNat n) 4 := by
  have h₂ : n / 4096 % 64 < 64 := by omega
  have h₃ : n / 64 % 64 < 64 := by omega
  have h₄ : n % 64 < 64 := by omega
  have hvalue : (((n / 262144 % 8 + 0xF0) % 8 * 64 + n / 4096 % 64) * 64 + n / 64 % 64) * 64 +
      n % 64 = n := by omega
  have hin : ¬ (_ || _) = true := Bool.eq_false_iff.1 <|
    not_outside (i := if n / 262144 % 8 = 0 then 0x90 else 0x80)
      (j := if n / 262144 % 8 = 4 then 0x8F else 0xBF) h₂
      (by split <;> omega) (by split <;> omega) (by split <;> omega)
  rw [read, if_neg (not_ascii_ofNat (by omega) (by omega)), lead?_four _ (by omega)]
  dsimp only
  rw [if_neg hin, if_neg (by omega), isContinuation_ofNat h₃, if_neg (by decide),
    if_neg (by omega), isContinuation_ofNat h₄, if_neg (by decide), payload_ofNat h₂,
    payload_ofNat h₃, payload_ofNat h₄, toNat_ofNat (by omega), hvalue]

/-- The bytes of a character are read as that character. -/
theorem read_encodeChar (c : Char) (rest : List UInt8) :
    ∃ b bytes, String.utf8EncodeChar c = b :: bytes ∧
      read b (bytes ++ rest) = .character c (bytes.length + 1) := by
  have hvalid : c.toNat < 0xD800 ∨ 0xDFFF < c.toNat ∧ c.toNat < 0x110000 := c.valid
  have hc : Char.ofNat c.toNat = c := Char.ofNat_toNat c
  unfold String.utf8EncodeChar
  change ∃ b bytes, (if c.toNat ≤ 0x7F then _ else if c.toNat ≤ 0x7FF then _ else
    if c.toNat ≤ 0xFFFF then _ else _) = b :: bytes ∧ _
  split_ifs
  · have hread := read_one (n := c.toNat) (by omega) rest
    rw [hc] at hread
    exact ⟨_, _, rfl, hread⟩
  · have hread := read_two (n := c.toNat) (by omega) (by omega) rest
    rw [hc] at hread
    exact ⟨_, _, rfl, hread⟩
  · have hread := read_three (n := c.toNat) (by omega) (by omega) (by omega) rest
    rw [hc] at hread
    exact ⟨_, _, rfl, hread⟩
  · have hread := read_four (n := c.toNat) (by omega) (by omega) rest
    rw [hc] at hread
    exact ⟨_, _, rfl, hread⟩

/-! ## Texts -/

theorem encode_cons (c : Char) (text : List Char) :
    encode (c :: text) = String.utf8EncodeChar c ++ encode text := List.flatMap_cons

theorem decodeFrom_append (index : Nat) (bytes rest : List UInt8) :
    decodeFrom index bytes.length (bytes ++ rest) = decodeFrom (index + bytes.length) 0 rest := by
  induction bytes generalizing index with
  | nil => rfl
  | cons b bytes ih =>
    rw [List.length_cons, List.cons_append, decodeFrom, ih]
    congr 1
    omega

theorem decodeLenientFrom_append (bytes rest : List UInt8) :
    decodeLenientFrom bytes.length (bytes ++ rest) = decodeLenientFrom 0 rest := by
  induction bytes with
  | nil => rfl
  | cons b bytes ih => rw [List.length_cons, List.cons_append, decodeLenientFrom, ih]

theorem decodeFrom_encode (index : Nat) (text : List Char) :
    decodeFrom index 0 (encode text) = .ok text := by
  induction text generalizing index with
  | nil => rfl
  | cons c text ih =>
    obtain ⟨b, bytes, hc, hread⟩ := read_encodeChar c (encode text)
    rw [encode_cons, hc, List.cons_append, decodeFrom]
    simp only [hread, Nat.add_sub_cancel, decodeFrom_append, ih]
    rfl

/-- The bytes of a text are read as that text. -/
theorem decode_encode_ok (text : List Char) : decode (encode text) = .ok text :=
  decodeFrom_encode 0 text

theorem decodeLenient_encode (text : List Char) : decodeLenient (encode text) = text := by
  induction text with
  | nil => rfl
  | cons c text ih =>
    obtain ⟨b, bytes, hc, hread⟩ := read_encodeChar c (encode text)
    rw [encode_cons, hc, List.cons_append, decodeLenient, decodeLenientFrom]
    simp only [hread, Nat.add_sub_cancel, decodeLenientFrom_append]
    exact congrArg (c :: ·) ih

end LinkedShapes.Text.Utf8
