import Mathlib.Data.List.TakeDrop
import Mathlib.Data.List.TakeWhile
import LinkedShapes.Proofs.Iri.Characters
import LinkedShapes.Proofs.Text.Utf8

/-!
# The parts of identifiers that are read

An identifier is read from left to right, and each part ends where a character stands that it cannot
hold. What is read is legible: its scheme is in lower case, its authority is plain, and if it is
part of a hierarchy nothing in it is dropped when it is read again.

* `authority?_slash`: an authority that is written plain is read up to the slash behind it.
* `follow_eq_cons`: a path that is walked starts with a slash.
* `legible_of_parse?`: every identifier that is read is legible.
-/

namespace LinkedShapes.Iri

open Text

variable {scheme text rest t x y : List Char} {c : Char} {kind : Kind} {a : Authority} {i : Iri}

/-! ## Schemes -/

/-- A scheme in lower case. -/
def IsScheme (scheme : List Char) : Prop :=
  StartsWithLetter scheme ∧ ∀ c ∈ scheme, isSchemeChar c = true ∧ asciiLower c = c

theorem asciiLower_spec (h : isSchemeChar c = true) :
    isSchemeChar (asciiLower c) = true ∧ asciiLower (asciiLower c) = asciiLower c := by
  have hcapital : ∀ n < 26, isSchemeChar (asciiLower (Char.ofNat (n + 65))) = true ∧
      asciiLower (asciiLower (Char.ofNat (n + 65))) = asciiLower (Char.ofNat (n + 65)) := by
    decide
  by_cases hc : 'A'.toNat ≤ c.toNat ∧ c.toNat ≤ 'Z'.toNat
  · have hA : 'A'.toNat = 65 := rfl
    have hZ : 'Z'.toNat = 90 := rfl
    have heq : c = Char.ofNat (c.toNat - 65 + 65) := by
      rw [Nat.sub_add_cancel (by omega), Char.ofNat_toNat]
    rw [heq]
    exact hcapital _ (by omega)
  · have hlower : asciiLower c = c := if_neg (by simpa using hc)
    rw [hlower]
    exact ⟨h, hlower⟩

theorem isScheme_of_scheme? (h : scheme? text = some (scheme, rest)) : IsScheme scheme := by
  refine ⟨scheme?_startsWithLetter h, ?_⟩
  unfold scheme? at h
  rw [List.span_eq_takeWhile_dropWhile] at h
  simp only at h
  split at h
  · next first chars rest' htake hdrop =>
    split at h
    · cases h
      intro c hc
      obtain ⟨d, hd, rfl⟩ := List.mem_map.1 hc
      exact asciiLower_spec (List.mem_takeWhile_imp hd)
    · cases h
  · cases h

/-- A scheme is read up to its colon. -/
theorem scheme?_append (h : IsScheme scheme) : scheme? (scheme ++ ':' :: x) = some (scheme, x) := by
  obtain ⟨⟨first, chars, rfl, hfirst⟩, hall⟩ := h
  have hpass : ∀ c ∈ first :: chars, isSchemeChar c = true := fun c hc => (hall c hc).1
  have hcolon : ¬ isSchemeChar ':' = true := by decide
  have htake : ((first :: chars) ++ ':' :: x).takeWhile isSchemeChar = first :: chars := by
    rw [List.takeWhile_append_of_pos hpass, List.takeWhile_cons_of_neg hcolon, List.append_nil]
  have hdrop : ((first :: chars) ++ ':' :: x).dropWhile isSchemeChar = ':' :: x := by
    rw [List.dropWhile_append_of_pos hpass, List.dropWhile_cons_of_neg hcolon]
  have hlower : (first :: chars).map asciiLower = first :: chars := by
    rw [List.map_congr_left fun c hc => (hall c hc).2, List.map_id']
  unfold scheme?
  rw [List.span_eq_takeWhile_dropWhile, htake, hdrop]
  simp only [hfirst, if_true, hlower]

theorem ne_colon_of_isScheme (h : IsScheme scheme) (hc : c ∈ scheme) : c ≠ ':' := by
  rintro rfl
  exact absurd (h.2 ':' hc).1 (by decide)

/-! ## Authorities -/

theorem isPlain_of_not_isCredentialEscaped (h : isCredentialEscaped c = false) :
    isPlain c = true := by
  obtain ⟨hpath, hlist⟩ := Bool.or_eq_false_iff.1 h
  obtain ⟨hcontrol, hlist'⟩ := Bool.or_eq_false_iff.1 hpath
  have hspace : c ≠ ' ' := ne_of_not_contains hlist' (by decide)
  rw [isPlain_iff]
  exact ⟨of_decide_eq_true (isVisible_of_not_isControl hcontrol hspace),
    ne_of_not_contains hlist (by decide), ne_of_not_contains hlist (by decide),
    ne_of_not_contains hlist' (by decide), ne_of_not_contains hlist' (by decide)⟩

theorem isPlain_of_mem_credentials (h : c ∈ credentials text) : isPlain c = true := by
  have hencoded : ∀ cs : List Char, ∀ c ∈ Percent.encode isCredentialEscaped cs, isPlain c = true :=
    fun cs => isPlain_of_mem_encode fun _ _ => isPlain_of_not_isCredentialEscaped
  unfold credentials at h
  rw [List.span_eq_takeWhile_dropWhile] at h
  simp only at h
  rcases List.mem_append.1 h with h | h
  · exact hencoded _ c h
  · split at h
    · exact absurd h List.not_mem_nil
    · rcases List.mem_cons.1 h with rfl | h
      · decide
      · exact hencoded _ c h

/-- The steps in which an authority is read. -/
theorem authority?_steps (h : authority? scheme text = some (a, rest)) :
    ∃ user? place name more,
      splitAtLast '@' (text.takeWhile fun c =>
        !(Path.isSeparator (.ofScheme scheme) c || endsPath c)) = (user?, place) ∧
      hostText (.ofScheme scheme) false (place ++ text.dropWhile fun c =>
        !(Path.isSeparator (.ofScheme scheme) c || endsPath c)) = (name, more) ∧
      a.credentials = (user?.map credentials).getD [] ∧
      (if (Kind.ofScheme scheme).isSpecial then Host.ofDomain? name else Host.ofText? name) =
        some a.host ∧
      port? scheme more = some (a.port, rest) := by
  simp only [authority?, List.span_eq_takeWhile_dropWhile] at h
  generalize hsplit : splitAtLast '@' _ = parts at h
  obtain ⟨user?, place⟩ := parts
  simp only at h
  split at h
  · cases h
  · generalize hhost : hostText _ false _ = parts at h
    obtain ⟨name, more⟩ := parts
    simp only at h
    -- the port is read in one way, whichever way the host has been
    have hafter : ∀ host?, (host? >>= fun host => port? scheme more >>= fun parts =>
        pure (⟨(user?.map credentials).getD [], host, parts.1⟩, parts.2)) = some (a, rest) →
        a.credentials = (user?.map credentials).getD [] ∧ host? = some a.host ∧
          port? scheme more = some (a.port, rest) := by
      intro host? h
      obtain ⟨host, hhost, h⟩ := Option.bind_eq_some_iff.1 h
      obtain ⟨⟨port, rest⟩, hport, h⟩ := Option.bind_eq_some_iff.1 h
      cases h
      exact ⟨rfl, hhost, hport⟩
    refine ⟨user?, place, name, more, rfl, hhost, ?_⟩
    split at h
    · next hspecial =>
      rw [if_pos hspecial]
      exact hafter _ h
    · next hspecial =>
      rw [if_neg hspecial]
      split at h
      · cases h
      · exact hafter _ h

/-- What is read as an authority is plain. -/
theorem isPlain_of_authority? (h : authority? scheme text = some (a, rest)) :
    ∀ c ∈ a.text, isPlain c = true := by
  obtain ⟨user?, place, name, more, -, -, hcredentials, hhost, -⟩ := authority?_steps h
  intro c hc
  unfold Authority.text at hc
  rcases List.mem_append.1 hc with hc | hc
  · rcases List.mem_append.1 hc with hc | hc
    · split at hc
      · exact absurd hc List.not_mem_nil
      · rcases List.mem_append.1 hc with hc | hc
        · rw [hcredentials] at hc
          cases user? with
          | none => exact absurd hc List.not_mem_nil
          | some user => exact isPlain_of_mem_credentials hc
        · obtain rfl := List.mem_singleton.1 hc
          decide
    · split at hhost
      · exact (isPlain_of_ofDomain? hhost).2 c hc
      · exact isPlain_of_ofText? hhost c hc
  · split at hc
    · rcases List.mem_cons.1 hc with rfl | hc
      · decide
      · exact isPlain_of_isAsciiAlphanumeric
          (isAsciiAlphanumeric_of_mem_toDigits (by decide) (by decide) _ c hc)
    · exact absurd hc List.not_mem_nil

/-- The authority of a web resource is not empty. -/
theorem ne_nil_of_authority? (hs : (Kind.ofScheme scheme).isSpecial = true)
    (h : authority? scheme text = some (a, rest)) : a.text ≠ [] := by
  obtain ⟨-, -, name, -, -, -, -, hhost, -⟩ := authority?_steps h
  rw [if_pos hs] at hhost
  have hne := (isPlain_of_ofDomain? hhost).1
  unfold Authority.text
  simp [hne]

/-! ## What follows an authority -/

theorem not_separates_of_isPlain (h : isPlain c = true) :
    (Path.isSeparator kind c || endsPath c) = false := by
  obtain ⟨hslash, hend⟩ := not_isSlash_of_isPlain h
  obtain ⟨hslash, hback⟩ := Bool.or_eq_false_iff.1 hslash
  simp [Path.isSeparator, hslash, hback, hend]

/-- Characters are taken up to a slash at most, whatever stands behind it. -/
theorem takeWhile_append_slash {p : Char → Bool} (hp : p '/' = false) (t x : List Char) :
    (t ++ '/' :: x).takeWhile p = t.takeWhile p ∧
      (t ++ '/' :: x).dropWhile p = t.dropWhile p ++ '/' :: x := by
  have hslash : ¬ p '/' = true := Bool.eq_false_iff.1 hp
  induction t with
  | nil =>
    rw [List.nil_append, List.takeWhile_cons_of_neg hslash, List.dropWhile_cons_of_neg hslash]
    exact ⟨rfl, rfl⟩
  | cons c t ih =>
    rw [List.cons_append]
    by_cases hc : p c = true
    · rw [List.takeWhile_cons_of_pos hc, List.takeWhile_cons_of_pos hc,
        List.dropWhile_cons_of_pos hc, List.dropWhile_cons_of_pos hc, ih.1, ih.2]
      exact ⟨rfl, rfl⟩
    · rw [List.takeWhile_cons_of_neg hc, List.takeWhile_cons_of_neg hc,
        List.dropWhile_cons_of_neg hc, List.dropWhile_cons_of_neg hc]
      exact ⟨rfl, rfl⟩

/-- Plain characters are taken up to a slash. -/
theorem takeWhile_slash {p : Char → Bool} (ht : ∀ c ∈ t, p c = true) (hp : p '/' = false) :
    (t ++ '/' :: x).takeWhile p = t ∧ (t ++ '/' :: x).dropWhile p = '/' :: x := by
  obtain ⟨htake, hdrop⟩ := takeWhile_append_slash hp t x
  rw [htake, hdrop, List.takeWhile_eq_self_iff.2 ht, List.dropWhile_eq_nil_iff.2 ht]
  exact ⟨rfl, rfl⟩

theorem sublist_of_splitAtLast {user? : Option (List Char)} {place : List Char}
    (h : splitAtLast c text = (user?, place)) : place.Sublist text := by
  unfold splitAtLast at h
  rw [List.span_eq_takeWhile_dropWhile] at h
  simp only at h
  split at h
  · cases h
    exact List.Sublist.refl _
  · cases h
    rw [← List.reverse_sublist, List.reverse_reverse]
    exact List.takeWhile_sublist _

/-- A host ends before a slash, and after it there is at most a port. -/
theorem hostText_slash (kind : Kind) (inBrackets : Bool) (ht : ∀ c ∈ t, isPlain c = true) :
    ∃ name port, port ⊆ t ∧ (port = [] ∨ port.head? = some ':') ∧
      ∀ x, hostText kind inBrackets (t ++ '/' :: x) = (name, port ++ '/' :: x) := by
  induction t generalizing inBrackets with
  | nil =>
    refine ⟨[], [], List.Subset.refl _, .inl rfl, fun x => ?_⟩
    rw [List.nil_append, hostText, if_pos (by simp [Path.isSeparator])]
  | cons c t ih =>
    obtain ⟨hc, ht⟩ := List.forall_mem_cons.1 ht
    by_cases hstop : (c == ':' && !inBrackets) = true
    · refine ⟨[], c :: t, List.Subset.refl _, .inr ?_, fun x => ?_⟩
      · rw [List.head?_cons, beq_iff_eq.1 (Bool.and_eq_true_iff.1 hstop).1]
      · rw [List.cons_append, hostText, if_pos (by simp [hstop])]
    · obtain ⟨name, port, hsub, hport, hread⟩ := ih (c == '[' || (inBrackets && c != ']')) ht
      refine ⟨c :: name, port, List.Subset.trans hsub (List.subset_cons_self _ _), hport,
        fun x => ?_⟩
      rw [List.cons_append, hostText, Bool.or_assoc, not_separates_of_isPlain hc, Bool.or_false,
        if_neg hstop, hread]

/-- A port that does not go up to the slash is refused. -/
theorem port?_slash (scheme : List Char) {port : List Char} (hp : ∀ c ∈ port, isPlain c = true)
    (hcolon : port = [] ∨ port.head? = some ':') :
    ∃ n? : Option (Option Nat), ∀ x, port? scheme (port ++ '/' :: x) = n?.map (·, '/' :: x) := by
  cases port with
  | nil => exact ⟨some none, fun x => rfl⟩
  | cons c digits =>
    obtain rfl : c = ':' := by simpa using hcolon
    have hparts := takeWhile_append_slash (show isAsciiDigit '/' = false from rfl) digits
    unfold port?
    simp only [List.cons_append, List.span_eq_takeWhile_dropWhile, hparts]
    cases hdrop : digits.dropWhile isAsciiDigit with
    | nil =>
      have hslash : isSlash '/' = true := rfl
      by_cases hv : 65535 < digitsValue (digits.takeWhile isAsciiDigit)
      · exact ⟨none, fun x => if_pos (.inl hv)⟩
      · exact ⟨some _, fun x => if_neg (by simp [hv, hslash])⟩
    | cons d others =>
      -- before the slash, nothing ends a port
      refine ⟨none, fun x => if_pos (.inr ?_)⟩
      have hd : d ∈ digits := (List.dropWhile_sublist _).subset (hdrop ▸ List.mem_cons_self)
      obtain ⟨hslash, hend⟩ := not_isSlash_of_isPlain (hp d (List.mem_cons_of_mem _ hd))
      simp [hslash, hend]

/-- An authority that is written plain is read up to the slash, whatever stands behind. -/
theorem authority?_slash (scheme : List Char) (ht : ∀ c ∈ t, isPlain c = true) :
    ∃ a? : Option Authority, ∀ x, authority? scheme (t ++ '/' :: x) = a?.map (·, '/' :: x) := by
  have hparts : ∀ x, (t ++ '/' :: x).takeWhile
        (fun c => !(Path.isSeparator (.ofScheme scheme) c || endsPath c)) = t ∧
      (t ++ '/' :: x).dropWhile
        (fun c => !(Path.isSeparator (.ofScheme scheme) c || endsPath c)) = '/' :: x := fun x =>
    takeWhile_slash (fun c hc => by rw [not_separates_of_isPlain (ht c hc)]; rfl) rfl
  cases hsplit : splitAtLast '@' t with
  | mk user? place =>
  have hplace : ∀ c ∈ place, isPlain c = true := fun c hc =>
    ht c ((sublist_of_splitAtLast hsplit).subset hc)
  obtain ⟨name, port, hsub, hcolon, hhost⟩ := hostText_slash (.ofScheme scheme) false hplace
  obtain ⟨n?, hport⟩ := port?_slash scheme (fun c hc => hplace c (hsub hc)) hcolon
  have hhead : ∀ x, (port ++ '/' :: x).head? = some ':' ↔ port.head? = some ':' := by
    intro x
    cases port <;> simp
  -- only the rest that is handed on depends on what stands behind the slash
  have hafter : ∀ host? : Option (List Char), ∃ a? : Option Authority, ∀ x,
      (host? >>= fun host => n?.map (·, '/' :: x) >>= fun parts =>
        pure (⟨(user?.map credentials).getD [], host, parts.1⟩, parts.2)) =
          a?.map (·, '/' :: x) := by
    intro host?
    cases host? with
    | none => exact ⟨none, fun _ => rfl⟩
    | some host =>
      cases n? with
      | none => exact ⟨none, fun _ => rfl⟩
      | some n => exact ⟨some ⟨_, host, n⟩, fun _ => rfl⟩
  simp only [authority?, List.span_eq_takeWhile_dropWhile, hparts, hsplit, hhost, hport, hhead,
    List.isEmpty_cons]
  split
  · exact ⟨none, fun _ => rfl⟩
  · split
    · exact hafter _
    · split
      · exact ⟨none, fun _ => rfl⟩
      · exact hafter _

/-! ## Paths -/

section Paths

variable {before given : List (List Char)} {Q : List Char → Prop}

theorem step_ne_nil {segment : List Char} (hb : Path.isBack segment = false)
    (hh : Path.isHere segment = false) : Path.step kind before segment ≠ [] := by
  unfold Path.step
  rw [hb, hh]
  simp only [Bool.false_eq_true, if_false]
  split <;> exact List.cons_ne_nil _ _

theorem walk_ne_nil (h : given ≠ []) : Path.walk kind before given ≠ [] := by
  induction given generalizing before with
  | nil => exact absurd rfl h
  | cons segment given ih =>
    cases given with
    | nil =>
      rw [Path.walk]
      split
      · exact List.cons_ne_nil _ _
      · next hdots =>
        rw [Bool.not_eq_true, Bool.or_eq_false_iff] at hdots
        exact step_ne_nil hdots.1 hdots.2
    | cons next given =>
      rw [Path.walk]
      · exact ih (List.cons_ne_nil _ _)
      · exact List.cons_ne_nil _ _

/-- What all segments of a path have is left to them when the path is walked. -/
theorem forall_mem_step (hd : ∀ s, Q s → Q (s.take 1 ++ [':'])) (hb : ∀ s ∈ before, Q s)
    {segment : List Char} (hs : Q segment) : ∀ s ∈ Path.step kind before segment, Q s := by
  unfold Path.step
  split
  · cases before with
    | nil => exact fun _ h => absurd h List.not_mem_nil
    | cons first before =>
      rw [Path.back]
      split
      · exact hb
      · exact (List.forall_mem_cons.1 hb).2
  · split
    · exact hb
    · split
      · exact fun s h => List.mem_singleton.1 h ▸ hd segment hs
      · exact List.forall_mem_cons.2 ⟨hs, hb⟩

theorem forall_mem_walk (hnil : Q []) (hd : ∀ s, Q s → Q (s.take 1 ++ [':']))
    (hb : ∀ s ∈ before, Q s) (hg : ∀ s ∈ given, Q s) :
    ∀ s ∈ Path.walk kind before given, Q s := by
  induction given generalizing before with
  | nil => exact hb
  | cons segment given ih =>
    obtain ⟨hs, hg⟩ := List.forall_mem_cons.1 hg
    have hstep : ∀ s ∈ Path.step kind before segment, Q s := forall_mem_step hd hb hs
    cases given with
    | nil =>
      rw [Path.walk]
      split
      · exact List.forall_mem_cons.2 ⟨hnil, hstep⟩
      · exact hstep
    | cons next given =>
      rw [Path.walk]
      · exact ih hstep hg
      · exact List.cons_ne_nil _ _

theorem dropEmpty_ne_nil {segments : List (List Char)} (h : segments ≠ []) :
    Path.dropEmpty segments ≠ [] := by
  fun_induction Path.dropEmpty segments with
  | case1 segment segments ih => exact ih (List.cons_ne_nil _ _)
  | case2 => exact h

theorem dropEmpty_subset (segments : List (List Char)) : Path.dropEmpty segments ⊆ segments := by
  fun_induction Path.dropEmpty segments with
  | case1 segment segments ih => exact List.Subset.trans ih (List.subset_cons_self _ _)
  | case2 => exact List.Subset.refl _

/-- A path that is walked starts with a slash. -/
theorem follow_eq_cons (kind : Kind) (before : List (List Char)) (text : List Char) :
    ∃ p, Path.follow kind before text = '/' :: p := by
  have hne : (Path.walk kind before
      ((split (Path.isSeparator kind) text).map (Percent.encode Path.isEscaped))).reverse ≠ [] := by
    rw [Ne, List.reverse_eq_nil_iff]
    exact walk_ne_nil (by simpa using split_ne_nil _ _)
  have hcons : ∀ segments, segments ≠ [] → ∃ p, Path.ofSegments segments = '/' :: p := by
    intro segments h
    obtain ⟨first, others, rfl⟩ := List.exists_cons_of_ne_nil h
    exact ⟨_, List.flatMap_cons⟩
  unfold Path.follow
  split
  · exact hcons _ (dropEmpty_ne_nil hne)
  · exact hcons _ hne

theorem isVisible_of_not_isEscaped (h : Path.isEscaped c = false) : isVisible c = true := by
  obtain ⟨hcontrol, hlist⟩ := Bool.or_eq_false_iff.1 h
  exact isVisible_of_not_isControl hcontrol (ne_of_not_contains hlist (by decide))

/-- A path that is walked from the root is visible. -/
theorem isVisible_of_mem_follow (h : c ∈ Path.follow kind [] text) : isVisible c = true := by
  have hwalk : ∀ segment ∈ Path.walk kind []
      ((split (Path.isSeparator kind) text).map (Percent.encode Path.isEscaped)),
      ∀ c ∈ segment, isVisible c = true := by
    refine forall_mem_walk (fun _ h => absurd h List.not_mem_nil) (fun s hs c hc => ?_)
      (fun _ h => absurd h List.not_mem_nil) (List.forall_mem_map.2 fun s _ =>
        isVisible_of_mem_encode fun _ => isVisible_of_not_isEscaped)
    rcases List.mem_append.1 hc with hc | hc
    · exact hs c (List.mem_of_mem_take hc)
    · obtain rfl := List.mem_singleton.1 hc
      decide
  obtain ⟨segment, hs, hc⟩ := List.mem_flatMap.1 h
  rcases List.mem_cons.1 hc with rfl | hc
  · decide
  · refine hwalk segment (List.mem_reverse.1 ?_) c hc
    split at hs
    · exact dropEmpty_subset _ hs
    · exact hs

end Paths

/-! ## Identifiers -/

/-- The parts of an identifier that is read. -/
structure Legible (i : Iri) : Prop where
  scheme : IsScheme i.scheme
  authority : ∀ a, i.authority = some a → ∀ c ∈ a.text, isPlain c = true
  /-- Web resources and files have an authority, and that of web resources is not empty. -/
  special : i.kind ≠ .other → ∃ a, i.authority = some a ∧ (i.kind = .web → a.text ≠ [])
  /-- Nothing behind the authority is dropped. -/
  visible : i.isHierarchical = true →
    ∀ c ∈ i.path ++ marked '?' i.query ++ marked '#' i.fragment, isVisible c = true

theorem isVisible_of_mem_withPath {a? : Option Authority} {path : List Char → List Char}
    (hpath : ∀ given, ∀ c ∈ path given, isVisible c = true) :
    let i := withPath scheme a? path text
    ∀ c ∈ i.path ++ marked '?' i.query ++ marked '#' i.fragment, isVisible c = true := by
  have hquery : ∀ cs : List Char, ∀ c ∈ Percent.encode (isQueryEscaped (.ofScheme scheme)) cs,
      isVisible c = true := by
    refine fun cs => isVisible_of_mem_encode fun c h => ?_
    obtain ⟨h, -⟩ := Bool.or_eq_false_iff.1 h
    obtain ⟨hcontrol, hlist⟩ := Bool.or_eq_false_iff.1 h
    exact isVisible_of_not_isControl hcontrol (ne_of_not_contains hlist (by decide))
  have hfragment : ∀ cs : List Char, ∀ c ∈ Percent.encode isFragmentEscaped cs,
      isVisible c = true := by
    refine fun cs => isVisible_of_mem_encode fun c h => ?_
    obtain ⟨hcontrol, hlist⟩ := Bool.or_eq_false_iff.1 h
    exact isVisible_of_not_isControl hcontrol (ne_of_not_contains hlist (by decide))
  have hmarked : ∀ (mark : Char) (part : Option (List Char)), isVisible mark = true →
      (∀ cs, part = some cs → ∀ c ∈ cs, isVisible c = true) →
      ∀ c ∈ marked mark part, isVisible c = true := by
    intro mark part hm hp c hc
    cases part with
    | none => exact absurd hc List.not_mem_nil
    | some cs => exact (List.mem_cons.1 hc).elim (fun h => h ▸ hm) (hp cs rfl c)
  intro i c hc
  rcases List.mem_append.1 hc with hc | hc
  · rcases List.mem_append.1 hc with hc | hc
    · exact hpath _ c hc
    · refine hmarked '?' i.query (by decide) (fun cs hcs => ?_) c hc
      simp only [i, withPath, queryAndFragment, List.span_eq_takeWhile_dropWhile] at hcs
      split at hcs
      · cases hcs
        exact hquery _
      · cases hcs
  · refine hmarked '#' i.fragment (by decide) (fun cs hcs => ?_) c hc
    simp only [i, withPath, queryAndFragment, List.span_eq_takeWhile_dropWhile] at hcs
    split at hcs
    · cases hcs
      exact hfragment _
    · cases hcs

theorem isVisible_of_mem_rootedPath (h : c ∈ rootedPath kind text) : isVisible c = true := by
  unfold rootedPath at h
  split at h
  · exact absurd h List.not_mem_nil
  · exact isVisible_of_mem_follow h

theorem legible_of_withAuthority? (hs : IsScheme scheme) (h : withAuthority? scheme text = some i) :
    Legible i := by
  obtain ⟨⟨a, rest⟩, ha, h⟩ := Option.bind_eq_some_iff.1 h
  cases h
  exact {
    scheme := hs
    authority := fun b hb => by
      cases hb
      exact isPlain_of_authority? ha
    special := fun hk => ⟨a, rfl, fun hweb => ne_nil_of_authority? (by
      rw [show Kind.ofScheme scheme = .web from hweb]
      rfl) ha⟩
    visible := fun _ => isVisible_of_mem_withPath fun _ _ => isVisible_of_mem_rootedPath }

/-- What is read of a file is legible if its host is. -/
theorem legible_of_file {path : List Char → List Char} {host : List Char} (hs : IsScheme scheme)
    (hk : Kind.ofScheme scheme = .file) (hhost : ∀ c ∈ host, isPlain c = true)
    (hpath : ∀ given, ∀ c ∈ path given, isVisible c = true) :
    Legible (withPath scheme (some ⟨[], host, none⟩) path text) where
  scheme := hs
  authority := fun b hb => by
    cases hb
    intro c hc
    exact hhost c (by simpa [Authority.text] using hc)
  special := fun _ => ⟨_, rfl, fun hweb => by
    rw [show Kind.ofScheme scheme = .web from hweb] at hk
    cases hk⟩
  visible := fun _ => isVisible_of_mem_withPath hpath

/-- Is the first segment of a path a drive? -/
def startsOnDrive (path : List Char) : Bool := (Path.segments path).head?.any Path.isPlainDrive

/-- A file on a drive has no host. -/
theorem fileWithHost?_cases (h : fileWithHost? scheme text = some i) :
    Path.isDrive (text.takeWhile fun c => !(isSlash c || endsPath c)) = true ∧
        i = withPath scheme (some .empty) (Path.follow .file []) text ∨
      ∃ host : List Char, (∀ c ∈ host, isPlain c = true) ∧
        i = withPath scheme (some ⟨[], host, none⟩) (rootedPath .file)
          (text.dropWhile fun c => !(isSlash c || endsPath c)) ∧
        (startsOnDrive i.path = true → host = []) := by
  unfold fileWithHost? at h
  rw [List.span_eq_takeWhile_dropWhile] at h
  simp only at h
  split at h
  · next hdrive =>
    cases h
    exact .inl ⟨hdrive, rfl⟩
  · let file := withPath scheme (some .empty) (rootedPath .file)
      (text.dropWhile fun c => !(isSlash c || endsPath c))
    -- with a host that is read or an empty one, a drive or the local host leaves none
    have hafter : ∀ host : List Char, (∀ c ∈ host, isPlain c = true) →
        (if startsOnDrive file.path = true ∨ host = "localhost".toList then some file
          else some { file with authority := some ⟨[], host, none⟩ }) = some i →
        ∃ host : List Char, (∀ c ∈ host, isPlain c = true) ∧
          i = { file with authority := some ⟨[], host, none⟩ } ∧
          (startsOnDrive i.path = true → host = []) := by
      intro host hplain h
      split at h
      · obtain rfl := Option.some.inj h
        exact ⟨[], fun _ h => absurd h List.not_mem_nil, rfl, fun _ => rfl⟩
      · next hplace =>
        obtain rfl := Option.some.inj h
        exact ⟨host, hplain, rfl, fun hdrive => absurd (.inl hdrive) hplace⟩
    right
    split at h
    · exact hafter [] (fun _ h => absurd h List.not_mem_nil) h
    · obtain ⟨host, hhost, h⟩ := Option.bind_eq_some_iff.1 h
      exact hafter host (isPlain_of_ofDomain? hhost).2 h

theorem legible_of_file? (hs : IsScheme scheme) (hk : Kind.ofScheme scheme = .file)
    (h : file? scheme none text = some i) : Legible i := by
  have hempty : ∀ path, (∀ given, ∀ c ∈ path given, isVisible c = true) →
      Legible (withPath scheme (some .empty) path text) :=
    fun path => legible_of_file hs hk fun _ h => absurd h List.not_mem_nil
  unfold file? at h
  split at h
  · split at h
    · split at h
      · rcases fileWithHost?_cases h with ⟨-, rfl⟩ | ⟨host, hhost, rfl, -⟩
        · exact legible_of_file hs hk (fun _ h => absurd h List.not_mem_nil) fun _ _ =>
            isVisible_of_mem_follow
        · exact legible_of_file hs hk hhost fun _ _ => isVisible_of_mem_rootedPath
      · split at h
        · next hbase =>
          split at hbase <;> cases hbase
        · cases h
          exact hempty _ fun _ _ => isVisible_of_mem_follow
    · cases h
      exact hempty _ fun _ _ => isVisible_of_mem_follow
  · next hbase => cases hbase
  · cases h
    exact hempty _ fun _ _ => isVisible_of_mem_follow

theorem legible_of_withoutAuthority {path : List Char → List Char} (hs : IsScheme scheme)
    (hk : Kind.ofScheme scheme = .other)
    (hpath : (path (text.takeWhile (!endsPath ·))).head? = some '/' →
      ∀ given, ∀ c ∈ path given, isVisible c = true) :
    Legible (withPath scheme none path text) where
  scheme := hs
  authority := fun _ hb => nomatch hb
  special := fun hne => absurd hk hne
  visible := fun hh => by
    refine isVisible_of_mem_withPath (hpath ?_)
    simpa [isHierarchical, withPath, List.span_eq_takeWhile_dropWhile] using hh

/-- Every identifier that is read is legible. -/
theorem legible_of_parse? {text : String} (h : parse? text = some i) : Legible i := by
  obtain ⟨⟨scheme, rest⟩, hscheme, h⟩ := Option.bind_eq_some_iff.1 h
  have hs := isScheme_of_scheme? hscheme
  simp only [afterScheme?] at h
  split at h
  · next hk => exact legible_of_file? hs hk h
  · exact legible_of_withAuthority? hs h
  · next hk =>
    split at h
    · exact legible_of_withAuthority? hs h
    · cases h
      exact legible_of_withoutAuthority hs hk fun _ _ _ => isVisible_of_mem_follow
    · next hslash =>
      cases h
      -- without a slash in front, the path is not part of a hierarchy
      refine legible_of_withoutAuthority hs hk fun hhead => ?_
      cases rest with
      | nil => cases hhead
      | cons c rest =>
        simp only [List.takeWhile_cons] at hhead
        split at hhead
        · rw [Percent.encode, List.flatMap_cons] at hhead
          split at hhead
          · obtain ⟨b, bytes, hbytes, -⟩ := Utf8.read_encodeChar c []
            rw [hbytes] at hhead
            cases hhead
          · obtain rfl : c = '/' := Option.some.inj hhead
            exact absurd rfl (hslash rest)
        · cases hhead

theorem isVisible_of_isSchemeChar (h : isSchemeChar c = true) : isVisible c = true := by
  unfold isSchemeChar at h
  simp only [Bool.or_eq_true, beq_iff_eq] at h
  rcases h with ((h | rfl) | rfl) | rfl
  · exact isVisible_of_isPlain (isPlain_of_isAsciiAlphanumeric h)
  all_goals decide

theorem mem_hierarchy (h : c ∈ i.hierarchy) :
    c = '/' ∨ c = '.' ∨ (∃ a, i.authority = some a ∧ c ∈ a.text) ∨ c ∈ i.path := by
  unfold hierarchy at h
  split at h
  · next a ha =>
    simp only [List.cons_append, List.mem_cons, List.mem_append] at h
    rcases h with h | h | h | h
    · exact .inl h
    · exact .inl h
    · exact .inr (.inr (.inl ⟨a, ha, h⟩))
    · exact .inr (.inr (.inr h))
  · split at h
    · simp only [List.mem_cons] at h
      rcases h with h | h | h
      · exact .inl h
      · exact .inr (.inl h)
      · exact .inr (.inr (.inr h))
    · exact .inr (.inr (.inr h))

theorem chars_of_authority (ha : i.authority = some a) : i.chars = i.scheme ++ ':' ::
    '/' :: '/' :: (a.text ++ (i.path ++ (marked '?' i.query ++ marked '#' i.fragment))) := by
  simp [chars, hierarchy, ha]

/-- An identifier in a hierarchy is written in visible characters. -/
theorem Legible.isVisible_of_mem_chars (h : Legible i) (hh : i.isHierarchical = true)
    (hc : c ∈ i.chars) : isVisible c = true := by
  have hbehind := h.visible hh
  simp only [List.mem_append] at hbehind
  simp only [chars, List.mem_append, List.mem_cons] at hc
  rcases hc with ((hc | rfl | hc) | hc) | hc
  · exact isVisible_of_isSchemeChar (h.scheme.2 c hc).1
  · decide
  · rcases mem_hierarchy hc with rfl | rfl | ⟨a, ha, hc⟩ | hc
    · decide
    · decide
    · exact isVisible_of_isPlain (h.authority a ha c hc)
    · exact hbehind c (.inl (.inl hc))
  · exact hbehind c (.inl (.inr hc))
  · exact hbehind c (.inr hc)

end LinkedShapes.Iri
