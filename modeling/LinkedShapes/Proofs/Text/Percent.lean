import LinkedShapes.Proofs.Text.Utf8
import LinkedShapes.Text.Percent

/-!
# Percent-encoded texts

A text may be percent-encoded in many ways: characters stand for themselves or their bytes are
written, with digits of either case. Only a percent sign must not stand for itself.

* `Encodes`: all these ways.
* `decode_of_encodes`: they are read as the bytes of the text.
* `encodes_encode`: `encode` is one of them.
-/

namespace LinkedShapes.Text.Percent

variable {text encoded written : List Char} {bytes : List UInt8} {c : Char} {n : Nat}

/-! ## Digits -/

theorem hexValue?_hexDigit : ∀ n < 16, hexValue? (hexDigit n) = some n := by decide

/-! ## Written bytes -/

/-- Bytes that are written with digits of any case. -/
inductive Writes : List UInt8 → List Char → Prop
  | nil : Writes [] []
  | cons {b : UInt8} {bytes : List UInt8} {high low : Char} {written : List Char}
      (hhigh : hexValue? high = some (b.toNat / 16)) (hlow : hexValue? low = some (b.toNat % 16))
      (h : Writes bytes written) : Writes (b :: bytes) ('%' :: high :: low :: written)

theorem decode_append_of_writes (h : Writes bytes written) (rest : List Char) :
    decode (written ++ rest) = bytes ++ decode rest := by
  induction h with
  | nil => rfl
  | @cons b bytes high low written hhigh hlow _ ih =>
    have hb : UInt8.ofNat (16 * (b.toNat / 16) + b.toNat % 16) = b := by
      rw [Nat.div_add_mod, UInt8.ofNat_toNat]
    rw [List.cons_append, List.cons_append, List.cons_append, decode, hhigh, hlow]
    simp only [hb, ih, List.cons_append]

theorem writes_flatMap (bytes : List UInt8) : Writes bytes (bytes.flatMap encodeByte) := by
  induction bytes with
  | nil => exact .nil
  | cons b bytes ih =>
    have hb : b.toNat < 256 := b.toNat_lt
    exact .cons (hexValue?_hexDigit _ (by omega)) (hexValue?_hexDigit _ (by omega)) ih

/-! ## Encoded texts -/

/-- The ways to percent-encode a text. -/
inductive Encodes : List Char → List Char → Prop
  | nil : Encodes [] []
  | kept {c : Char} {text encoded : List Char} (hc : c ≠ '%') (h : Encodes text encoded) :
      Encodes (c :: text) (c :: encoded)
  | written {c : Char} {text written encoded : List Char}
      (hc : Writes (String.utf8EncodeChar c) written) (h : Encodes text encoded) :
      Encodes (c :: text) (written ++ encoded)

theorem decode_cons_of_ne (hc : c ≠ '%') (rest : List Char) :
    decode (c :: rest) = String.utf8EncodeChar c ++ decode rest := by
  rw [decode]
  exact fun _ _ _ he _ => hc he

/-- An encoded text is read as the bytes of the text. -/
theorem decode_of_encodes (h : Encodes text encoded) : decode encoded = Utf8.encode text := by
  induction h with
  | nil => rfl
  | kept hc _ ih => rw [decode_cons_of_ne hc, ih, Utf8.encode_cons]
  | written hc _ ih => rw [decode_append_of_writes hc, ih, Utf8.encode_cons]

theorem encodes_encode {escaped : Char → Bool} (h : escaped '%' = true) (text : List Char) :
    Encodes text (encode escaped text) := by
  induction text with
  | nil => exact .nil
  | cons c text ih =>
    rw [encode, List.flatMap_cons]
    split
    · exact .written (writes_flatMap _) ih
    · next hc =>
      refine .kept ?_ ih
      rintro rfl
      exact hc h

end LinkedShapes.Text.Percent
