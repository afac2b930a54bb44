import Mathlib.Data.List.Nodup
import Mathlib.Data.List.TakeDrop
import LinkedShapes.Proofs.Json.Parser
import LinkedShapes.Proofs.Text.Percent
import LinkedShapes.Query.Parser

/-!
# Forms read back

Forms are written the way browsers do: letters, digits and a few signs stand for themselves, spaces
are plus signs, and the bytes of all other characters are percent-encoded. So neither the signs
between pairs nor those within are met in what is written.

* `formText_write`: a text is read back.
* `formPairs_write`: so are pairs.
* `ofForm_write`: hence a form without repeated keys and without commas stands for the object of
  its pairs, but for the numbers among them.
-/

namespace LinkedShapes.Query

open Text

variable {text key value : String} {pairs : List (String × String)} {c : Char}

/-! ## Writing -/

/-- The characters that forms leave alone. -/
def isFormChar (c : Char) : Bool :=
  isAsciiAlphanumeric c || c == '*' || c == '-' || c == '.' || c == '_'

/-- The way a character is written in a form. -/
def writeChar (c : Char) : List Char :=
  if c = ' ' then ['+']
  else if isFormChar c then [c]
  else (String.utf8EncodeChar c).flatMap Percent.encodeByte

def writeText (text : String) : List Char := text.toList.flatMap writeChar

def writePair (pair : String × String) : List Char :=
  writeText pair.1 ++ '=' :: writeText pair.2

/-- The form of a list of pairs. -/
def writeForm (pairs : List (String × String)) : String :=
  String.ofList (['&'].intercalate (pairs.map writePair))

/-! ## Texts -/

theorem isFormChar_hexDigit : ∀ n < 16, isFormChar (Percent.hexDigit n) = true := by decide

theorem mem_encodeByte {b : UInt8} (h : c ∈ Percent.encodeByte b) :
    isFormChar c = true ∨ c = '%' := by
  have hb : b.toNat < 256 := b.toNat_lt
  rw [Percent.encodeByte, List.mem_cons, List.mem_pair] at h
  rcases h with rfl | rfl | rfl
  · exact Or.inr rfl
  · exact Or.inl (isFormChar_hexDigit _ (by omega))
  · exact Or.inl (isFormChar_hexDigit _ (by omega))

theorem mem_writeText (h : c ∈ writeText text) : isFormChar c = true ∨ c = '%' ∨ c = '+' := by
  obtain ⟨d, -, hc⟩ := List.mem_flatMap.1 h
  unfold writeChar at hc
  split at hc
  · exact Or.inr (Or.inr (List.mem_singleton.1 hc))
  · split at hc
    · next hd => exact Or.inl (List.mem_singleton.1 hc ▸ hd)
    · obtain ⟨b, -, hc⟩ := List.mem_flatMap.1 hc
      exact (mem_encodeByte hc).imp_right Or.inl

/-- Where plus signs are spaces, what is written is percent-encoded. -/
theorem encodes_writeText (text : List Char) :
    Percent.Encodes text ((text.flatMap writeChar).map fun c => if c = '+' then ' ' else c) := by
  induction text with
  | nil => exact .nil
  | cons c text ih =>
    rw [List.flatMap_cons, List.map_append]
    unfold writeChar
    split
    · next hc =>
      subst hc
      exact .kept (by decide) ih
    · split
      · next hc =>
        have hplus : c ≠ '+' := by rintro rfl; cases hc
        rw [List.map_singleton, if_neg hplus]
        exact .kept (by rintro rfl; cases hc) ih
      · -- The digits of bytes are no plus signs.
        have hbytes : ∀ bytes : List UInt8, ((bytes.flatMap Percent.encodeByte).map fun c =>
            if c = '+' then ' ' else c) = bytes.flatMap Percent.encodeByte := by
          intro bytes
          refine (List.map_congr_left fun d hd => if_neg ?_).trans (List.map_id _)
          rintro rfl
          obtain ⟨b, -, hd⟩ := List.mem_flatMap.1 hd
          rcases mem_encodeByte hd with hd | hd <;> cases hd
        rw [hbytes]
        exact .written (Percent.writes_flatMap _) ih

/-- A text is read back. -/
theorem formText_write (text : String) : formText (writeText text) = text := by
  rw [formText, writeText, Percent.decode_of_encodes (encodes_writeText text.toList),
    Utf8.decodeLenient_encode, String.ofList_toList]

/-! ## Pairs -/

theorem split_append_cons {separates : Char → Bool} {piece : List Char}
    (h : ∀ c ∈ piece, separates c = false) (hc : separates c = true) (rest : List Char) :
    split separates (piece ++ c :: rest) = piece :: split separates rest := by
  induction piece with
  | nil => rw [List.nil_append, split, if_pos hc]
  | cons d piece ih =>
    obtain ⟨hd, hpiece⟩ := List.forall_mem_cons.1 h
    rw [List.cons_append, split, if_neg (by rw [hd]; exact Bool.false_ne_true), ih hpiece]

/-- Splitting undoes joining. -/
theorem splitAt_intercalate {pieces : List (List Char)} (hne : pieces ≠ [])
    (h : ∀ piece ∈ pieces, c ∉ piece) : splitAt c ([c].intercalate pieces) = pieces := by
  have hpart : ∀ {piece : List Char}, c ∉ piece → ∀ d ∈ piece, (d == c) = false :=
    fun hc d hd => beq_false_of_ne fun he => hc (he ▸ hd)
  induction pieces with
  | nil => exact absurd rfl hne
  | cons piece pieces ih =>
    obtain ⟨hpiece, hpieces⟩ := List.forall_mem_cons.1 h
    cases pieces with
    | nil =>
      rw [List.intercalate_singleton]
      exact split_eq_singleton _ _ (hpart hpiece)
    | cons next pieces =>
      rw [List.intercalate_cons_cons, List.append_assoc, List.singleton_append, splitAt,
        split_append_cons (hpart hpiece) (beq_self_eq_true c)]
      exact congrArg (piece :: ·) (ih (List.cons_ne_nil _ _) hpieces)

theorem formPair_write (pair : String × String) : formPair (writePair pair) = pair := by
  have hkey : ∀ c ∈ writeText pair.1, (c != '=') = true := by
    intro c hc
    rcases mem_writeText hc with hc | rfl | rfl
    · refine bne_iff_ne.2 ?_
      rintro rfl
      cases hc
    · rfl
    · rfl
  rw [formPair, writePair, List.span_eq_takeWhile_dropWhile, List.takeWhile_append_of_pos hkey,
    List.dropWhile_append_of_pos hkey]
  simp [formText_write]

theorem amp_notMem_writePair (pair : String × String) : '&' ∉ writePair pair := by
  intro h
  rcases List.mem_append.1 h with h | h
  · rcases mem_writeText h with h | h | h <;> cases h
  · rcases List.mem_cons.1 h with h | h
    · cases h
    · rcases mem_writeText h with h | h | h <;> cases h

/-- Pairs are read back. -/
theorem formPairs_write (h : pairs ≠ []) : formPairs (writeForm pairs).toList = pairs := by
  have hamp : ∀ piece ∈ pairs.map writePair, '&' ∉ piece := by
    intro piece hpiece
    obtain ⟨pair, -, rfl⟩ := List.mem_map.1 hpiece
    exact amp_notMem_writePair pair
  have hfull : ∀ piece ∈ pairs.map writePair, (!piece.isEmpty) = true := by
    intro piece hpiece
    obtain ⟨pair, -, rfl⟩ := List.mem_map.1 hpiece
    simp [writePair]
  have hne : pairs.map writePair ≠ [] := fun he => h (List.map_eq_nil_iff.1 he)
  rw [formPairs, writeForm, String.toList_ofList, splitAt_intercalate hne hamp,
    List.filter_eq_self.2 hfull, List.map_map]
  exact (List.map_congr_left fun pair _ => formPair_write pair).trans (List.map_id _)

/-! ## Members -/

theorem accumulate_of_notMem {known : List (String × List String)}
    (h : key ∉ known.map (·.1)) : accumulate key value known = known ++ [(key, [value])] := by
  induction known with
  | nil => rfl
  | cons entry known ih =>
    rw [List.map_cons, List.mem_cons, not_or] at h
    rw [accumulate, if_neg (Ne.symm h.1), ih h.2]
    rfl

theorem foldl_accumulate {known : List (String × List String)}
    (h : (known.map (·.1) ++ pairs.map (·.1)).Nodup) :
    pairs.foldl (fun known pair => accumulate pair.1 pair.2 known) known =
      known ++ pairs.map fun (key, value) => (key, [value]) := by
  induction pairs generalizing known with
  | nil => exact (List.append_nil known).symm
  | cons pair pairs ih =>
    have hkey : pair.1 ∉ known.map (·.1) := fun hmem =>
      (List.nodup_append.1 h).2.2 pair.1 hmem pair.1 List.mem_cons_self rfl
    rw [List.foldl_cons, accumulate_of_notMem hkey, ih (by simpa using h), List.append_assoc]
    rfl

/-- The members that a form without repeated keys stands for. -/
theorem ofForm_write (hne : pairs ≠ []) (h : (pairs.map (·.1)).Nodup) :
    ofForm (writeForm pairs).toList =
      pairs.map fun (key, value) => (key, formValue key [value]) := by
  have hfold : pairs.foldl (fun known pair => accumulate pair.1 pair.2 known) [] =
      pairs.map fun (key, value) => (key, [value]) := foldl_accumulate (by simpa using h)
  rw [ofForm, formPairs_write hne, formMembers, hfold, List.map_map]
  rfl

theorem separated_singleton (h : ',' ∉ value.toList) : separated [value] = .string value := by
  have hcommas : ∀ c ∈ value.toList, (c == ',') = false :=
    fun c hc => beq_false_of_ne fun he => h (he ▸ hc)
  rw [separated, List.flatMap_singleton, splitAt, split_eq_singleton _ _ hcommas,
    List.map_singleton, String.ofList_toList]

/-- A value without commas stands for itself, or for the number that it spells. -/
theorem formValue_singleton (h : ',' ∉ value.toList) :
    formValue key [value] = .string value ∨
      (key = offsetKey ∨ key = limitKey) ∧
        ∃ n : Nat, unsigned? value.toList = some n ∧
          formValue key [value] = .number (.integer n) := by
  unfold formValue
  dsimp only
  split
  · exact Or.inl rfl
  · split
    · next hkey =>
      cases hn : unsigned? value.toList with
      | none => exact Or.inl (separated_singleton h)
      | some n => exact Or.inr ⟨hkey, n, rfl, rfl⟩
    · exact Or.inl (separated_singleton h)

/-! ## The first characters -/

theorem of_startsEncoded {text : List Char} (h : startsEncoded text = true) :
    ∃ low rest, text = '%' :: '7' :: low :: rest ∧ (low = 'B' ∨ low = 'b') := by
  unfold startsEncoded at h
  split at h
  · exact ⟨_, _, rfl, by simpa using h⟩
  · cases h

theorem eq_brace_of_encodeChar {bytes : List UInt8}
    (h : String.utf8EncodeChar c = 0x7B :: bytes) : c = '\x7b' := by
  obtain ⟨b, more, hc, hread⟩ := Utf8.read_encodeChar c []
  obtain ⟨rfl, rfl⟩ := List.cons.inj (h.symm.trans hc)
  exact (Utf8.Reading.character.inj hread).1.symm

/-- What is written does not look like an object, unless the text does. -/
theorem starts_writeText (h : text.toList.head? ≠ some '\x7b') (rest : List Char) :
    startsEncoded (writeText text ++ '=' :: rest) = false ∧
      (writeText text ++ '=' :: rest).head? ≠ some '\x7b' := by
  have hbrace : ∀ n < 256, Percent.hexDigit (n / 16) = '7' →
      Percent.hexDigit (n % 16) = 'B' ∨ Percent.hexDigit (n % 16) = 'b' → n = 0x7B := by
    decide +kernel
  rw [writeText]
  cases hl : text.toList with
  | nil => exact ⟨rfl, nofun⟩
  | cons c cs =>
    rw [List.flatMap_cons]
    unfold writeChar
    split
    · exact ⟨rfl, nofun⟩
    · split
      · next hc =>
        refine ⟨Bool.eq_false_iff.2 fun hstart => ?_, fun hopen => ?_⟩
        · obtain ⟨low, rest, heq, -⟩ := of_startsEncoded hstart
          obtain rfl := (List.cons.inj heq).1
          cases hc
        · obtain rfl := Option.some.inj hopen
          cases hc
      · -- Of all bytes only that of the brace has these digits, and it is no part of another
        -- character.
        obtain ⟨b, bytes, hc, -⟩ := Utf8.read_encodeChar c []
        rw [hc]
        refine ⟨Bool.eq_false_iff.2 fun hstart => ?_, nofun⟩
        obtain ⟨low, rest, heq, hlow⟩ := of_startsEncoded hstart
        obtain ⟨hhigh, rfl, -⟩ := by simpa [Percent.encodeByte] using heq
        have hb : b = 0x7B := UInt8.toNat_inj.1 (hbrace _ b.toNat_lt hhigh hlow)
        rw [hb] at hc
        rw [hl, eq_brace_of_encodeChar hc] at h
        exact h rfl

end LinkedShapes.Query
