import LinkedShapes.Iri.Punycode

/-!
# The characters of encoded labels

* `mem_encode`: an encoded label has the ASCII characters of the label, hyphens and digits.
* `mem_of_decode`: the characters of a text that is decoded are left in the label, or they are
  hyphens and digits.
-/

namespace LinkedShapes.Iri.Punycode

open Text

variable {label text decoded rest : List Char} {c : Char} {bias point k w i n : Nat}

/-! ## Writing -/

theorem isAsciiAlphanumeric_digit : ∀ d < 36, isAsciiAlphanumeric (digit d) = true := by decide

theorem mem_encodeNumber (h : c ∈ encodeNumber bias k n) : isAsciiAlphanumeric c = true := by
  induction n using Nat.strongRecOn generalizing k with
  | _ n ih =>
    have hone := one_le_threshold k bias
    have hmax := threshold_le k bias
    rw [encodeNumber] at h
    split at h
    · obtain rfl := List.mem_singleton.1 h
      exact isAsciiAlphanumeric_digit n (by omega)
    · next hn =>
      rcases List.mem_cons.1 h with rfl | h
      · have hlt : (n - threshold k bias) % (36 - threshold k bias) < 36 - threshold k bias :=
          Nat.mod_lt _ (by omega)
        exact isAsciiAlphanumeric_digit _ (by omega)
      · exact ih _ (Nat.lt_of_le_of_lt (Nat.div_le_self _ _) (by omega)) h

theorem written_pass {basic : Nat} {s : Writer}
    (hs : ∀ c ∈ s.written, isAsciiAlphanumeric c = true) (d : Char) :
    ∀ c ∈ (s.pass basic point d).written, isAsciiAlphanumeric c = true := by
  unfold Writer.pass
  split
  · exact hs
  · split
    · exact fun c hc => (List.mem_append.1 hc).elim (hs c) mem_encodeNumber
    · exact hs

theorem written_run {basic : Nat} {points : List Nat} {s : Writer}
    (hs : ∀ c ∈ s.written, isAsciiAlphanumeric c = true) :
    ∀ c ∈ (Writer.run label basic points n s).written, isAsciiAlphanumeric c = true := by
  induction points generalizing n s with
  | nil => exact hs
  | cons point points ih =>
    have hfold : ∀ (cs : List Char) (s : Writer),
        (∀ c ∈ s.written, isAsciiAlphanumeric c = true) →
        ∀ c ∈ (cs.foldl (Writer.pass basic point) s).written, isAsciiAlphanumeric c = true := by
      intro cs
      induction cs with
      | nil => exact fun _ hs => hs
      | cons d cs ih => exact fun s hs => ih _ (written_pass hs d)
    exact ih (hfold label _ hs)

/-- An encoded label has the ASCII characters of the label, hyphens and digits. -/
theorem mem_encode (h : c ∈ encode label) :
    c ∈ label ∨ c = '-' ∨ isAsciiAlphanumeric c = true := by
  rcases List.mem_append.1 h with h | h
  · rcases List.mem_append.1 h with h | h
    · exact .inl (List.mem_filter.1 h).1
    · split at h
      · exact absurd h List.not_mem_nil
      · exact .inr (.inl (List.mem_singleton.1 h))
  · exact .inr (.inr (written_run (fun _ hc => absurd hc List.not_mem_nil) c h))

/-! ## Reading -/

theorem isAsciiAlphanumeric_of_digitValue? {d : Nat} (h : digitValue? c = some d) :
    isAsciiAlphanumeric c = true := by
  unfold digitValue? at h
  rw [isAsciiAlphanumeric, Bool.or_eq_true]
  split at h
  · next hd => exact .inr hd
  · split at h
    · next ha => exact .inl ha
    · cases h

/-- A number is read from the digits at the head of a text. -/
theorem digits_of_decodeNumber {r : Nat × List Char}
    (h : decodeNumber bias text k w i = some r) :
    ∃ digits, text = digits ++ r.2 ∧ ∀ c ∈ digits, isAsciiAlphanumeric c = true := by
  induction text generalizing k w i with
  | nil => cases h
  | cons c rest ih =>
    rw [decodeNumber] at h
    split at h
    · cases h
    · next d hd =>
      have hc := isAsciiAlphanumeric_of_digitValue? hd
      split at h
      · cases h
        exact ⟨[c], rfl, fun _ h => List.mem_singleton.1 h ▸ hc⟩
      · obtain ⟨digits, hdigits, hall⟩ := ih h
        refine ⟨c :: digits, by rw [hdigits, List.cons_append], ?_⟩
        exact List.forall_mem_cons.2 ⟨hc, hall⟩

/-- Numbers are digits, and characters are only inserted for them. -/
theorem mem_of_decodeAll (h : decodeAll bias point i label text = some decoded) :
    label ⊆ decoded ∧ ∀ c ∈ text, isAsciiAlphanumeric c = true := by
  induction hlength : text.length using Nat.strongRecOn generalizing bias point i label text with
  | _ length ih =>
    cases text with
    | nil =>
      rw [decodeAll] at h
      cases h
      exact ⟨List.Subset.refl _, fun _ hc => absurd hc List.not_mem_nil⟩
    | cons c rest =>
      rw [decodeAll] at h
      split at h
      · cases h
      · next i' rest' hnumber =>
        simp only at h
        split at h
        · obtain ⟨digits, hdigits, hall⟩ := digits_of_decodeNumber hnumber
          have hshort : rest'.length < length :=
            hlength ▸ length_of_decodeNumber _ _ _ _ _ _ hnumber
          obtain ⟨hsub, hrest⟩ := ih rest'.length hshort h rfl
          refine ⟨fun d hd => hsub ?_, fun d hd => ?_⟩
          · exact (List.mem_insertIdx (by
              exact Nat.lt_succ_iff.1 (Nat.mod_lt _ (Nat.succ_pos _)))).2 (.inr hd)
          · rw [hdigits] at hd
            exact (List.mem_append.1 hd).elim (hall d) (hrest d)
        · cases h

/-- The characters of a text that is decoded are left in the label, or they are hyphens and
digits. -/
theorem mem_of_decode (h : decode text = some decoded) (hc : c ∈ text) :
    c ∈ decoded ∨ c = '-' ∨ isAsciiAlphanumeric c = true := by
  unfold decode at h
  simp only at h
  obtain ⟨hsub, hdigits⟩ := mem_of_decodeAll h
  split at hdigits
  · exact .inr (.inr (hdigits c hc))
  · have hsplit : text = (text.reverse.dropWhile (· != '-')).reverse ++
        (text.reverse.takeWhile (· != '-')).reverse := by
      rw [← List.reverse_append, List.takeWhile_append_dropWhile, List.reverse_reverse]
    rw [hsplit] at hc
    rcases List.mem_append.1 hc with hc | hc
    · cases hbefore : text.reverse.dropWhile (· != '-') with
      | nil =>
        rw [hbefore] at hc
        exact absurd hc List.not_mem_nil
      | cons hyphen before =>
        have hhyphen : hyphen = '-' := by
          have hhead := List.head?_dropWhile_not (· != '-') text.reverse
          rw [hbefore] at hhead
          simpa using hhead
        rw [hbefore, List.mem_reverse] at hc
        rcases List.mem_cons.1 hc with rfl | hc
        · exact .inr (.inl hhyphen)
        · refine .inl (hsub ?_)
          rw [hbefore, List.tail_cons]
          exact List.mem_reverse.2 hc
    · exact .inr (.inr (hdigits c hc))

end LinkedShapes.Iri.Punycode
