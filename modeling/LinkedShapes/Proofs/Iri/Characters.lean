import LinkedShapes.Proofs.Iri.Punycode
import LinkedShapes.Proofs.Iri.Reference

/-!
# The characters of identifiers

What is read as an identifier is written in visible characters, and its authority without the
characters that would end it. Everything else has been dropped, written as bytes, or was refused.

* `isVisible`, `isPlain`: the characters of identifiers, and those of authorities.
* `isPlain_of_ofDomain?`, `isPlain_of_ofText?`: the hosts that are read are plain.
-/

namespace LinkedShapes.Iri

open Text

variable {text : List Char} {c : Char}

/-! ## Classes of characters -/

/-- A character that shows. -/
def isVisible (c : Char) : Bool := 0x20 < c.toNat

/-- A visible character that neither a path nor what follows it begins with. -/
def isPlain (c : Char) : Bool := isVisible c && !(isSlash c || endsPath c)

theorem isVisible_of_isPlain (h : isPlain c = true) : isVisible c = true :=
  (Bool.and_eq_true_iff.1 h).1

theorem not_isSlash_of_isPlain (h : isPlain c = true) : isSlash c = false ∧ endsPath c = false :=
  Bool.or_eq_false_iff.1 ((Bool.not_eq_true' _).mp (Bool.and_eq_true_iff.1 h).2)

theorem isPlain_iff : isPlain c = true ↔
    0x20 < c.toNat ∧ c ≠ '/' ∧ c ≠ '\\' ∧ c ≠ '?' ∧ c ≠ '#' := by
  simp [isPlain, isVisible, isSlash, endsPath, and_assoc]

theorem isPlain_of_isAsciiAlphanumeric (h : isAsciiAlphanumeric c = true) : isPlain c = true := by
  rw [isPlain_iff]
  refine ⟨?_, ?_, ?_, ?_, ?_⟩
  · simp only [isAsciiAlphanumeric, isAsciiAlpha, isAsciiDigit, Bool.or_eq_true, Bool.and_eq_true,
      decide_eq_true_eq, Char.reduceToNat] at h
    omega
  all_goals
    rintro rfl
    revert h
    decide

/-! ## Written bytes -/

/-- What is written where characters are written as bytes: those that are left, percent signs and
digits. -/
theorem forall_mem_encode {P : Char → Prop} {escaped : Char → Bool}
    (hleft : ∀ c ∈ text, escaped c = false → P c) (hpercent : P '%')
    (hdigit : ∀ n < 16, P (Percent.hexDigit n)) : ∀ c ∈ Percent.encode escaped text, P c := by
  intro c hc
  obtain ⟨d, hd, hc⟩ := List.mem_flatMap.1 hc
  split at hc
  · obtain ⟨b, -, hc⟩ := List.mem_flatMap.1 hc
    have hb : b.toNat < 256 := b.toNat_lt
    simp only [Percent.encodeByte, List.mem_cons, List.not_mem_nil, or_false] at hc
    rcases hc with rfl | rfl | rfl
    · exact hpercent
    · exact hdigit _ (by omega)
    · exact hdigit _ (by omega)
  · next he =>
    obtain rfl := List.mem_singleton.1 hc
    exact hleft c hd (Bool.eq_false_iff.2 he)

theorem isPlain_hexDigit : ∀ n < 16, isPlain (Percent.hexDigit n) = true := by decide

theorem isPlain_of_mem_encode {escaped : Char → Bool}
    (h : ∀ c ∈ text, escaped c = false → isPlain c = true) :
    ∀ c ∈ Percent.encode escaped text, isPlain c = true :=
  forall_mem_encode h (by decide) isPlain_hexDigit

theorem isVisible_of_mem_encode {escaped : Char → Bool}
    (h : ∀ c, escaped c = false → isVisible c = true) :
    ∀ c ∈ Percent.encode escaped text, isVisible c = true :=
  forall_mem_encode (fun c _ => h c) (by decide) fun n hn =>
    isVisible_of_isPlain (isPlain_hexDigit n hn)

/-- A character that is none of a text. -/
theorem ne_of_not_contains {cs : String} {d : Char} (h : cs.toList.contains c = false)
    (hd : cs.toList.contains d = true) : c ≠ d := by
  rintro rfl
  rw [hd] at h
  cases h

theorem isVisible_of_not_isControl (h : Host.isControl c = false) (hs : c ≠ ' ') :
    isVisible c = true := by
  simp only [Host.isControl, Bool.or_eq_false_iff, decide_eq_false_iff_not] at h
  have hne : c.toNat ≠ 0x20 := fun he => hs (Char.ext (UInt32.toNat_inj.1 he))
  simp only [isVisible, decide_eq_true_eq]
  omega

/-! ## Numbers -/

theorem isAsciiAlphanumeric_of_mem_toDigits {b : Nat} (hb : 1 < b) (hmax : b ≤ 16) (n : Nat) :
    ∀ c ∈ Nat.toDigits b n, isAsciiAlphanumeric c = true := by
  have hdigit : ∀ d < 16, isAsciiAlphanumeric d.digitChar = true := by decide
  induction n using Nat.strongRecOn with
  | _ n ih =>
    intro c hc
    rw [Nat.toDigits_eq_if hb] at hc
    split at hc
    · next hn =>
      obtain rfl := List.mem_singleton.1 hc
      exact hdigit n (by omega)
    · next hn =>
      rcases List.mem_append.1 hc with hc | hc
      · exact ih (n / b) (Nat.div_lt_self (by omega) hb) c hc
      · obtain rfl := List.mem_singleton.1 hc
        exact hdigit _ (Nat.lt_of_lt_of_le (Nat.mod_lt n (by omega)) hmax)

theorem mem_intercalate {separator : Char} {parts : List (List Char)}
    (h : c ∈ [separator].intercalate parts) : c = separator ∨ ∃ part ∈ parts, c ∈ part := by
  induction parts with
  | nil => exact absurd h List.not_mem_nil
  | cons part parts ih =>
    cases parts with
    | nil =>
      rw [List.intercalate_singleton] at h
      exact .inr ⟨part, List.mem_cons_self, h⟩
    | cons next parts =>
      rw [List.intercalate_cons_cons, List.append_assoc] at h
      rcases List.mem_append.1 h with h | h
      · exact .inr ⟨part, List.mem_cons_self, h⟩
      · rcases List.mem_append.1 h with h | h
        · exact .inl (List.mem_singleton.1 h)
        · rcases ih h with h | ⟨p, hp, h⟩
          · exact .inl h
          · exact .inr ⟨p, List.mem_cons_of_mem _ hp, h⟩

theorem mem_of_mapM {α β : Type} {f : α → Option β} {xs : List α} {ys : List β}
    (h : xs.mapM f = some ys) {y : β} (hy : y ∈ ys) : ∃ x ∈ xs, f x = some y := by
  induction xs generalizing ys with
  | nil =>
    cases h
    exact absurd hy List.not_mem_nil
  | cons x xs ih =>
    rw [List.mapM_cons] at h
    obtain ⟨first, hx, h⟩ := Option.bind_eq_some_iff.1 h
    obtain ⟨rest, hxs, h⟩ := Option.bind_eq_some_iff.1 h
    cases h
    rcases List.mem_cons.1 hy with rfl | hy
    · exact ⟨x, List.mem_cons_self, hx⟩
    · obtain ⟨x', hm, hf⟩ := ih hxs hy
      exact ⟨x', List.mem_cons_of_mem _ hm, hf⟩

/-! ## Hosts -/

/-- Numerals with plain characters between them are plain. -/
theorem isPlain_of_mem_numerals {α : Type} {b : Nat} {separator : Char} {f : α → Nat}
    {xs : List α} (hb : 1 < b) (hmax : b ≤ 16) (hs : isPlain separator = true)
    (h : c ∈ [separator].intercalate (xs.map fun x => Nat.toDigits b (f x))) :
    isPlain c = true := by
  rcases mem_intercalate h with rfl | ⟨part, hp, hc⟩
  · exact hs
  · obtain ⟨x, -, rfl⟩ := List.mem_map.1 hp
    exact isPlain_of_isAsciiAlphanumeric
      (isAsciiAlphanumeric_of_mem_toDigits hb hmax (f x) c hc)

theorem isPlain_of_mem_groupsText {groups : List Nat} (h : c ∈ Address.groupsText groups) :
    isPlain c = true :=
  isPlain_of_mem_numerals (f := id) (by decide) (by decide) (by decide) h

theorem isPlain_of_bracketed? {host : List Char} (h : Host.bracketed? text = some host) :
    host ≠ [] ∧ ∀ c ∈ host, isPlain c = true := by
  unfold Host.bracketed? at h
  split at h
  · obtain ⟨groups, -, h⟩ := Option.bind_eq_some_iff.1 h
    cases h
    refine ⟨List.cons_ne_nil _ _, fun c hc => ?_⟩
    rcases List.mem_cons.1 hc with rfl | hc
    · decide
    · rcases List.mem_append.1 hc with hc | hc
      · unfold Address.version6Text at hc
        simp only at hc
        split at hc
        · exact isPlain_of_mem_groupsText hc
        · rcases List.mem_append.1 hc with hc | hc
          · rcases List.mem_append.1 hc with hc | hc
            · exact isPlain_of_mem_groupsText hc
            · have hcolon : c = ':' := by simpa using hc
              subst hcolon
              decide
          · exact isPlain_of_mem_groupsText hc
      · obtain rfl := List.mem_singleton.1 hc
        decide
  · cases h

theorem isPlain_of_mem_version4Text {address : Nat} (h : c ∈ Address.version4Text address) :
    isPlain c = true :=
  isPlain_of_mem_numerals (by decide) (by decide) (by decide) h

theorem isPlain_of_not_isForbidden (h : Domain.isForbidden c = false) : isPlain c = true := by
  unfold Domain.isForbidden at h
  simp only [Bool.or_eq_false_iff, decide_eq_false_iff_not] at h
  obtain ⟨⟨hlow, -⟩, hlist⟩ := h
  rw [isPlain_iff]
  exact ⟨by omega, ne_of_not_contains hlist (by decide), ne_of_not_contains hlist (by decide),
    ne_of_not_contains hlist (by decide), ne_of_not_contains hlist (by decide)⟩

theorem isPlain_of_isLabel {label : List Char} (h : Domain.isLabel label = true) :
    ∀ c ∈ label, isPlain c = true := by
  unfold Domain.isLabel at h
  rw [Bool.and_eq_true, Bool.and_eq_true, Bool.not_eq_true', List.any_eq_false] at h
  exact fun c hc => isPlain_of_not_isForbidden (Bool.eq_false_iff.2 (h.1.1 c hc))

theorem isPlain_of_labelToAscii? {label ascii : List Char}
    (h : Domain.labelToAscii? label = some ascii) : ∀ c ∈ ascii, isPlain c = true := by
  have hother : ∀ c, c = '-' ∨ isAsciiAlphanumeric c = true → isPlain c = true := by
    rintro c (rfl | hc)
    · decide
    · exact isPlain_of_isAsciiAlphanumeric hc
  have hmark : ∀ c ∈ Domain.encodedMark, isPlain c = true := List.all_eq_true.1 rfl
  unfold Domain.labelToAscii? at h
  split at h
  · next hprefix =>
    split at h
    · next decoded hdecoded =>
      split at h
      · next hfit =>
        cases h
        obtain ⟨body, hbody⟩ := List.isPrefixOf_iff_prefix.1 hprefix
        subst hbody
        intro c hc
        rcases List.mem_append.1 hc with hc | hc
        · exact hmark c hc
        · simp only [Bool.and_eq_true] at hfit
          rcases Punycode.mem_of_decode hdecoded hc with hc | hc
          · exact isPlain_of_isLabel hfit.1.2 c hc
          · exact hother c hc
      · cases h
    · cases h
  · split at h
    · cases h
    · next hlabel =>
      have hplain := isPlain_of_isLabel (by simpa using hlabel)
      split at h
      · cases h
        exact hplain
      · cases h
        intro c hc
        rcases List.mem_append.1 hc with hc | hc
        · exact hmark c hc
        · exact (Punycode.mem_encode hc).elim (hplain c) (hother c)

theorem isPlain_of_toAscii? {name ascii : List Char} (h : Domain.toAscii? name = some ascii) :
    ∀ c ∈ ascii, isPlain c = true := by
  obtain ⟨normal, -, h⟩ := Option.bind_eq_some_iff.1 h
  obtain ⟨labels, hlabels, h⟩ := Option.bind_eq_some_iff.1 h
  split at h
  · cases h
    intro c hc
    rcases mem_intercalate hc with rfl | ⟨label, hl, hc⟩
    · decide
    · obtain ⟨given, -, hlabel⟩ := mem_of_mapM hlabels hl
      exact isPlain_of_labelToAscii? hlabel c hc
  · cases h

/-- Domain names and addresses are written plain, and they are not empty. -/
theorem isPlain_of_ofDomain? {host : List Char} (h : Host.ofDomain? text = some host) :
    host ≠ [] ∧ ∀ c ∈ host, isPlain c = true := by
  unfold Host.ofDomain? at h
  split at h
  · exact isPlain_of_bracketed? h
  · obtain ⟨name, hname, h⟩ := Option.bind_eq_some_iff.1 h
    split at h
    · cases h
    · next hne =>
      split at h
      · obtain ⟨address, -, h⟩ := Option.bind_eq_some_iff.1 h
        cases h
        refine ⟨?_, fun c => isPlain_of_mem_version4Text⟩
        simp [Address.version4Text, List.intercalate_cons_cons]
      · cases h
        exact ⟨fun he => hne (List.isEmpty_iff.2 he), isPlain_of_toAscii? hname⟩

/-- Hosts of other schemes are written plain. -/
theorem isPlain_of_ofText? {host : List Char} (h : Host.ofText? text = some host) :
    ∀ c ∈ host, isPlain c = true := by
  unfold Host.ofText? at h
  split at h
  · exact (isPlain_of_bracketed? h).2
  · split at h
    · cases h
    · next hany =>
      cases h
      rw [Bool.not_eq_true, List.any_eq_false] at hany
      refine isPlain_of_mem_encode fun c hc hcontrol => ?_
      have hlist := Bool.eq_false_iff.2 (hany c hc)
      have hspace : c ≠ ' ' := ne_of_not_contains hlist (by decide)
      have hvisible := isVisible_of_not_isControl hcontrol hspace
      rw [isPlain_iff]
      exact ⟨of_decide_eq_true hvisible, ne_of_not_contains hlist (by decide),
        ne_of_not_contains hlist (by decide), ne_of_not_contains hlist (by decide),
        ne_of_not_contains hlist (by decide)⟩

end LinkedShapes.Iri
