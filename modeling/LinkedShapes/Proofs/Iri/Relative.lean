import LinkedShapes.Proofs.Iri.Rooted

/-!
# Relative forms

The relative form of an identifier is what follows the root, cut off where the text of the root
ends, while a reference is read part by part. Both agree unless the cut leaves a second slash, which
is read as the start of an authority, or leads from a file on a drive to a file on none.

* `Under`: an identifier under the root of another.
* `Under.join?_of_not_slash`: what is read behind one slash is the identifier.
* `Under.chars_ne_of_slash`: what is read behind two slashes is not.
* `Under.join?_of_drive`: nor is what is read on the drive of the base.
* `resolve_relativize_iff`: the relative forms that resolve back.
* `resolve_relativize_ne`: some that do not.
-/

namespace LinkedShapes.Iri

open Text

variable {scheme rest t x y : List Char} {a A : Authority} {i j base : Iri}
variable {focus r text : String}

/-! ## Roots -/

/-- The text of the root of an identifier, without the slash at its end. -/
def trunk (i : Iri) : List Char :=
  i.scheme ++ ':' :: match i.authority with
    | some a => '/' :: '/' :: a.text
    | none => []

theorem trunk_of_authority (ha : i.authority = some a) :
    i.trunk = i.scheme ++ ':' :: '/' :: '/' :: a.text := by
  rw [trunk, ha]

theorem trunk_of_no_authority (ha : i.authority = none) : i.trunk = i.scheme ++ [':'] := by
  rw [trunk, ha]

theorem root?_eq_some_iff : root? text = some r ↔
    ∃ i, parse? text = some i ∧ i.isHierarchical = true ∧ r.toList = i.trunk ++ ['/'] := by
  have htext : ∀ i : Iri,
      ({ i with path := ['/'], query := none, fragment := none : Iri }).text =
        String.ofList (i.trunk ++ ['/']) := by
    intro i
    cases ha : i.authority <;> simp [Iri.text, chars, hierarchy, trunk, marked, ha]
  constructor
  · intro h
    obtain ⟨i, hi, h⟩ := Option.bind_eq_some_iff.1 h
    split at h
    · next hh =>
      cases h
      exact ⟨i, hi, hh, by rw [htext, String.toList_ofList]⟩
    · cases h
  · rintro ⟨i, hi, hh, hr⟩
    unfold root?
    rw [hi, Option.bind_eq_bind, Option.bind_some, if_pos hh, htext, ← hr, String.ofList_toList]
    rfl

theorem getLast?_trunk_of_authority (hl : Legible i) (ha : i.authority = some a) :
    a.text = [] ∨ ∃ c, i.trunk.getLast? = some c ∧ isPlain c = true := by
  rcases List.eq_nil_or_concat a.text with hnil | ⟨front, c, hc⟩
  · exact .inl hnil
  · have hlast : i.trunk = (i.scheme ++ ':' :: '/' :: '/' :: front) ++ [c] := by
      rw [trunk_of_authority ha, hc]
      simp
    exact .inr ⟨c, by rw [hlast, List.getLast?_concat], hl.authority a ha c (by simp [hc])⟩

theorem getLast?_trunk (hl : Legible i) : i.trunk.getLast? ≠ some '#' ∧
    (i.trunk.getLast? = some '/' → i.trunk.dropLast.getLast? = some '/') := by
  cases ha : i.authority with
  | none =>
    rw [trunk_of_no_authority ha, List.getLast?_concat]
    exact ⟨by decide, fun h => absurd h (by decide)⟩
  | some a =>
    rcases getLast?_trunk_of_authority hl ha with hnil | ⟨c, hc, hplain⟩
    · rw [trunk_of_authority ha, hnil]
      constructor <;> simp
    · rw [hc]
      obtain ⟨-, hslash, -, -, hmark⟩ := isPlain_iff.1 hplain
      exact ⟨fun h => hmark (Option.some.inj h), fun h => absurd (Option.some.inj h) hslash⟩

theorem Legible.kind_of_no_authority (h : Legible i) (ha : i.authority = none) :
    i.kind = .other := by
  by_contra hk
  obtain ⟨a, hsome, -⟩ := h.special hk
  rw [ha] at hsome
  cases hsome

theorem Legible.ne_nil_of_web (h : Legible i) (ha : i.authority = some a)
    (hk : Kind.ofScheme i.scheme = .web) : a.text ≠ [] := by
  obtain ⟨b, hb, hne⟩ := h.special (by rw [kind, hk]; decide)
  rw [ha] at hb
  cases hb
  exact hne hk

theorem Legible.isVisible_of_mem_trunk (h : Legible i) : ∀ c ∈ i.trunk, isVisible c = true := by
  have hscheme : ∀ c ∈ i.scheme, isVisible c = true := fun c hc =>
    isVisible_of_isSchemeChar (h.scheme.2 c hc).1
  have hcolon : isVisible ':' = true := rfl
  have hslash : isVisible '/' = true := rfl
  cases ha : i.authority with
  | none =>
    rw [trunk_of_no_authority ha]
    simp only [List.forall_mem_append, List.forall_mem_singleton]
    exact ⟨hscheme, hcolon⟩
  | some a =>
    rw [trunk_of_authority ha]
    simp only [List.forall_mem_append, List.forall_mem_cons]
    exact ⟨hscheme, hcolon, hslash, hslash, fun c hc =>
      isVisible_of_isPlain (h.authority a ha c hc)⟩

/-- A text that begins with a root is read as it stands up to there. -/
theorem parse?_of_trunk (h : Legible base) (ht : text.toList = base.trunk ++ '/' :: rest)
    (hx : base.trunk ++ '/' :: tidy rest = base.scheme ++ ':' :: x) :
    parse? text = afterScheme? base.scheme x := by
  have hclean : clean text = base.trunk ++ '/' :: tidy rest := by
    have hfront : ∀ c ∈ base.trunk ++ ['/'], isVisible c = true := by
      simp only [List.forall_mem_append, List.forall_mem_singleton]
      exact ⟨h.isVisible_of_mem_trunk, rfl⟩
    have htext : text.toList = (base.trunk ++ ['/']) ++ rest := by
      rw [ht]
      simp
    rw [clean_append htext hfront (by simp)]
    simp
  unfold parse?
  rw [hclean, hx, scheme?_append h.scheme]
  rfl

/-- Under a root with an authority that can be read itself, everything can. -/
theorem parse?_isSome_of_root (h : Legible base) (ha : base.authority = some a)
    (hr : r.toList = base.trunk ++ ['/']) (hread : (parse? r).isSome = true)
    (ht : text.toList = base.trunk ++ '/' :: rest) : (parse? text).isSome = true := by
  have hx : ∀ rest, base.trunk ++ '/' :: tidy rest =
      base.scheme ++ ':' :: '/' :: '/' :: (a.text ++ '/' :: tidy rest) := by
    intro rest
    simp [trunk_of_authority ha]
  rw [parse?_of_trunk h hr (hx [])] at hread
  rw [parse?_of_trunk h ht (hx rest)]
  exact afterScheme?_isSome (h.authority a ha) (h.ne_nil_of_web ha) hread _

/-- A text that goes on with a slash behind its scheme is that of an identifier in a hierarchy. -/
theorem isHierarchical_of_chars (h : i.chars = i.scheme ++ ':' :: '/' :: x) :
    i.isHierarchical = true := by
  unfold isHierarchical
  cases ha : i.authority with
  | some a => rfl
  | none =>
    have hbehind : i.hierarchy ++ (marked '?' i.query ++ marked '#' i.fragment) = '/' :: x := by
      unfold chars at h
      rw [List.append_assoc, List.append_assoc] at h
      exact (List.cons.inj (List.append_cancel_left h)).2
    unfold hierarchy at hbehind
    rw [ha] at hbehind
    cases hp : i.path with
    | nil =>
      rw [hp] at hbehind
      cases hq : i.query <;> cases hf : i.fragment <;> simp [marked, hq, hf] at hbehind
    | cons c path =>
      rw [hp] at hbehind
      have hc : c = '/' := by
        simp only at hbehind
        split at hbehind
        · next heq => exact (List.cons.inj heq).1
        · exact (List.cons.inj hbehind).1
      rw [hc]
      rfl

/-! ## Identifiers under a root -/

/-- The text of an identifier is that of the root of `base`, with `rest` behind it. -/
structure Under (base : Iri) (rest : List Char) (i : Iri) : Prop where
  base_legible : Legible base
  base_hierarchical : base.isHierarchical = true
  /-- The identifier is written in the one way. -/
  read : parse? i.text = some i
  chars_eq : i.chars = base.trunk ++ '/' :: rest

namespace Under

theorem legible (h : Under base rest i) : Legible i := legible_of_parse? h.read

theorem text_eq (h : Under base rest i) : i.text.toList = base.trunk ++ '/' :: rest := by
  rw [Iri.text, String.toList_ofList, h.chars_eq]

/-- Whatever follows the scheme, it begins with a slash. -/
theorem exists_chars (h : Under base rest i) : ∃ x, i.chars = base.scheme ++ ':' :: '/' :: x := by
  rw [h.chars_eq]
  cases ha : base.authority with
  | some a => exact ⟨'/' :: (a.text ++ '/' :: rest), by simp [trunk_of_authority ha]⟩
  | none => exact ⟨rest, by simp [trunk_of_no_authority ha]⟩

theorem scheme_eq (h : Under base rest i) : i.scheme = base.scheme := by
  obtain ⟨x, hx⟩ := h.exists_chars
  unfold Iri.chars at hx
  rw [List.append_assoc, List.append_assoc, List.cons_append] at hx
  exact (append_cons_inj (fun c => ne_colon_of_isScheme h.legible.scheme)
    (fun c => ne_colon_of_isScheme h.base_legible.scheme) hx).1

theorem isHierarchical (h : Under base rest i) : i.isHierarchical = true := by
  obtain ⟨x, hx⟩ := h.exists_chars
  exact isHierarchical_of_chars (h.scheme_eq ▸ hx)

theorem visible (h : Under base rest i) : ∀ c ∈ i.chars, isVisible c = true :=
  fun _ => h.legible.isVisible_of_mem_chars h.isHierarchical

theorem visible_rest (h : Under base rest i) : ∀ c ∈ '/' :: rest, isVisible c = true :=
  fun c hc => h.visible c (by rw [h.chars_eq]; exact List.mem_append_right _ hc)

/-- The identifier is read as it stands. -/
theorem reads (h : Under base rest i) (hx : i.chars = base.scheme ++ ':' :: x) :
    afterScheme? base.scheme x = some i := by
  have htext : i.text.toList = i.chars := String.toList_ofList
  have hread := h.read
  unfold parse? at hread
  rwa [clean_of_isVisible (htext ▸ h.visible), htext, hx,
    scheme?_append h.base_legible.scheme] at hread

end Under

/-- The authority ends at the first slash behind it. -/
theorem authority_of_chars {p : List Char} (hA : i.authority = some A)
    (hplain : ∀ c ∈ A.text, isPlain c = true) (hp : i.path = '/' :: p)
    (ht : ∀ c ∈ t, isPlain c = true)
    (hc : i.chars = i.scheme ++ ':' :: '/' :: '/' :: (t ++ '/' :: rest)) :
    A.text = t ∧ '/' :: rest = i.path ++ (marked '?' i.query ++ marked '#' i.fragment) := by
  rw [chars_of_authority hA] at hc
  have hbehind := (List.cons.inj (List.cons.inj (List.cons.inj (List.append_cancel_left hc)).2).2).2
  rw [hp, List.cons_append] at hbehind
  obtain ⟨htext, hrest⟩ := append_cons_inj (fun c hc => ne_slash_of_isPlain (hplain c hc))
    (fun c hc => ne_slash_of_isPlain (ht c hc)) hbehind
  exact ⟨htext, by rw [hp, ← hrest]; rfl⟩

namespace Under

theorem chars_of_authority (h : Under base rest i) (ha : base.authority = some a) :
    i.chars = i.scheme ++ ':' :: '/' :: '/' :: (a.text ++ '/' :: rest) := by
  rw [h.chars_eq, trunk_of_authority ha, h.scheme_eq]
  simp

theorem chars_of_no_authority (h : Under base rest i) (ha : base.authority = none) :
    i.chars = i.scheme ++ ':' :: '/' :: rest := by
  rw [h.chars_eq, trunk_of_no_authority ha, h.scheme_eq]
  simp

/-- An identifier under the root of an authority goes on with a path from the root. -/
theorem withPath_of_authority (h : Under base rest i) (ha : base.authority = some a) :
    ∃ A : Authority, A.text = a.text ∧
      i = withPath base.scheme (some A) (Path.follow base.kind []) rest ∧
      '/' :: rest = i.path ++ (marked '?' i.query ++ marked '#' i.fragment) ∧
      (base.kind = .file → startsOnDrive i.path = true → a.text = []) := by
  have ht := h.base_legible.authority a ha
  have hchars := h.chars_of_authority ha
  obtain ⟨A, given, heq, hcases⟩ := afterScheme?_slash ht (h.base_legible.ne_nil_of_web ha)
    (h.reads (h.scheme_eq ▸ hchars))
  have hA : i.authority = some A := by rw [heq]; rfl
  obtain ⟨p, hp⟩ : ∃ p, i.path = '/' :: p := by
    rw [heq]
    exact follow_eq_cons _ _ _
  obtain ⟨htext, hrest⟩ := authority_of_chars hA (h.legible.authority A hA) hp ht hchars
  rcases hcases with ⟨hdrive, hempty⟩ | ⟨rfl, hempty⟩
  · rw [← htext, hempty] at hdrive
    cases hdrive
  · exact ⟨A, htext, heq, hrest, fun hk hd => htext ▸ hempty hk hd⟩

theorem trunk_eq_of_authority (h : Under base rest i) (ha : base.authority = some a) :
    i.trunk = base.trunk := by
  obtain ⟨A, hA, heq, -⟩ := h.withPath_of_authority ha
  rw [trunk_of_authority (show i.authority = some A by rw [heq]; rfl), trunk_of_authority ha, hA,
    h.scheme_eq]

theorem trunk_eq_of_no_authority (h : Under base rest i) (ha : base.authority = none) :
    i.trunk = base.trunk ↔ i.authority = none := by
  rw [trunk_of_no_authority ha, ← h.scheme_eq]
  constructor
  · intro heq
    cases hi : i.authority with
    | none => rfl
    | some A =>
      rw [trunk_of_authority hi] at heq
      cases (List.cons.inj (List.append_cancel_left heq)).2
  · exact trunk_of_no_authority

/-! ## References to what is under a root -/

/-- Under a root without an authority, the reference is read as the identifier is. -/
theorem join?_of_no_authority (h : Under base rest i) (ha : base.authority = none)
    (hs : i.authority = none → rest.head?.any isSlash = false) :
    join? base (String.ofList ('/' :: rest)) = some i := by
  have hk := h.base_legible.kind_of_no_authority ha
  have hafter := h.reads (h.scheme_eq ▸ h.chars_of_no_authority ha)
  unfold afterScheme? at hafter
  rw [show Kind.ofScheme base.scheme = .other from hk] at hafter
  simp only at hafter
  split at hafter
  · -- the text goes on with an authority, and so does the reference
    next heq =>
    obtain ⟨-, rfl⟩ := List.cons.inj heq
    rw [join?_slash_eq h.base_hierarchical (clean_ofList h.visible_rest),
      if_neg (by rw [hk]; decide)]
    exact hafter
  · next heq =>
    obtain ⟨-, rfl⟩ := List.cons.inj heq
    rw [join?_slash h.base_hierarchical (by rw [hk]; decide) h.visible_rest
      (hs (by cases hafter; rfl)), ha, hk]
    exact hafter
  · next hslash => exact absurd rfl (hslash rest)

/-- With the path of the identifier, the reference brings the identifier. -/
theorem join?_of_authority (h : Under base rest i) (ha : base.authority = some a)
    (hs : rest.head?.any isSlash = false)
    (hd : base.kind = .file → startsOnDrive base.path = true → startsOnDrive i.path = true) :
    ∃ j, join? base (String.ofList ('/' :: rest)) = some j ∧ j.chars = i.chars := by
  obtain ⟨A, hA, heq, hpath, hhost⟩ := h.withPath_of_authority ha
  have hchars : ∀ b : Authority, A.text = b.text →
      (withPath base.scheme (some b) (Path.follow base.kind []) rest).chars = i.chars := by
    intro b hb
    rw [heq]
    simp only [Iri.chars, hierarchy, withPath, hb]
  by_cases hk : base.kind = .file
  · have hfile := join?_slash_of_file h.base_hierarchical hk h.visible_rest hs fun hon =>
      startsWithDrive_of_startsOnDrive (hd hk hon) hpath (endsSegment_marked _ _)
    refine ⟨_, hfile, ?_⟩
    cases hdrive : Path.startsWithDrive rest with
    | true =>
      -- a file on a drive has no host
      have hnone : a.text = [] := by
        refine hhost hk ?_
        rw [heq, hk]
        simpa [withPath, List.span_eq_takeWhile_dropWhile] using startsOnDrive_follow hdrive
      rw [if_pos rfl, ← hk]
      exact hchars .empty (hA.trans hnone)
    | false =>
      rw [if_neg (by decide), ha, ← hk]
      exact hchars a hA
  · refine ⟨_, join?_slash h.base_hierarchical hk h.visible_rest hs, ?_⟩
    rw [ha]
    exact hchars a hA

theorem join?_of_not_slash (h : Under base rest i)
    (hs : i.trunk = base.trunk → rest.head?.any isSlash = false)
    (hd : base.kind = .file → startsOnDrive base.path = true → startsOnDrive i.path = true) :
    ∃ j, join? base (String.ofList ('/' :: rest)) = some j ∧ j.chars = i.chars := by
  cases ha : base.authority with
  | some a => exact h.join?_of_authority ha (hs (h.trunk_eq_of_authority ha)) hd
  | none =>
    exact ⟨i, h.join?_of_no_authority ha fun hi => hs ((h.trunk_eq_of_no_authority ha).2 hi), rfl⟩

/-- What is read behind two slashes has less of them than the identifier. -/
theorem chars_ne_of_slash {c : Char} (h : Under base (c :: rest) i) (hc : isSlash c = true)
    (htrunk : i.trunk = base.trunk)
    (hj : join? base (String.ofList ('/' :: c :: rest)) = some j) : j.chars ≠ i.chars := by
  intro heq
  obtain ⟨hsome, hscheme, hle⟩ :=
    join?_slashes h.base_hierarchical h.base_legible.scheme h.visible_rest hc hj
  obtain ⟨b, hb⟩ := Option.isSome_iff_exists.1 hsome
  cases ha : base.authority with
  | some a =>
    -- the identifier has four slashes in front of what is left, and what is read three at most
    have hcolon : ∀ text, slashes (':' :: text) = slashes text := fun text => slashes_cons _ _
    rw [heq, h.chars_of_authority ha, slashes_append, slashes_of_isScheme h.legible.scheme, hcolon,
      slashes_slash, slashes_slash, slashes_append, slashes_slash, slashes_cons, if_pos hc] at hle
    omega
  | none =>
    -- an identifier without an authority goes on with one slash
    have hi := (h.trunk_eq_of_no_authority ha).1 htrunk
    have hchars := h.chars_of_no_authority ha
    rw [← heq, Iri.chars_of_authority hb, hscheme, h.scheme_eq] at hchars
    have hbehind := (List.cons.inj (List.cons.inj (List.append_cancel_left hchars)).2).2
    obtain ⟨rfl, -⟩ := List.cons.inj hbehind
    have hk : Kind.ofScheme base.scheme = .other := h.base_legible.kind_of_no_authority ha
    have hafter := h.reads (h.scheme_eq ▸ h.chars_of_no_authority ha)
    unfold Iri.afterScheme? at hafter
    rw [hk] at hafter
    obtain ⟨⟨A, rest'⟩, -, hafter⟩ := Option.bind_eq_some_iff.1 hafter
    cases hafter
    cases hi

/-- From a file on a drive one does not get to a file on none. -/
theorem join?_of_drive (h : Under base rest i) (hk : base.kind = .file)
    (hs : rest.head?.any isSlash = false) (hon : startsOnDrive base.path = true)
    (hoff : startsOnDrive i.path = false) :
    ∃ j, join? base (String.ofList ('/' :: rest)) = some j ∧ j.chars ≠ i.chars := by
  obtain ⟨a, ha, -⟩ := h.base_legible.special (by rw [hk]; decide)
  obtain ⟨A, hA, hi, hpath, hhost⟩ := h.withPath_of_authority ha
  have hdrive : Path.startsWithDrive rest = false := by
    rw [Bool.eq_false_iff]
    intro hdrive
    have hpath := startsOnDrive_follow hdrive
    rw [hi, hk] at hoff
    simp [withPath, List.span_eq_takeWhile_dropWhile, hpath] at hoff
  unfold startsOnDrive at hon
  obtain ⟨first, hfirst, hplain⟩ := (Option.any_eq_true _ _).1 hon
  refine ⟨_, join?_slash_of_drive h.base_hierarchical hk h.visible_rest hs hdrive hfirst hplain, ?_⟩
  intro heq
  obtain ⟨p, hp⟩ := follow_eq_cons .file [first] (rest.takeWhile (!endsPath ·))
  have hbehind := authority_of_chars (A := .empty) rfl (fun _ h => absurd h List.not_mem_nil)
    (by simpa [withPath, List.span_eq_takeWhile_dropWhile] using hp)
    (h.base_legible.authority a ha) (heq.trans (h.scheme_eq ▸ h.chars_of_authority ha))
  -- the drive of the base is in front of the path that is read
  rw [startsWithDrive_of_startsOnDrive (startsOnDrive_follow_of_isPlainDrive hplain _) hbehind.2
    (endsSegment_marked _ _)] at hdrive
  cases hdrive

end Under

/-! ## Resolving back -/

theorem resolve_slash (hb : parse? focus = some base) :
    resolve focus (String.ofList ('/' :: rest)) =
      match join? base (String.ofList ('/' :: rest)) with
      | some j => j.text
      | none => append focus (String.ofList ('/' :: rest)) := by
  have hne : String.ofList ('/' :: rest) ≠ "" := fun h => by
    have := congrArg String.toList h
    rw [String.toList_ofList] at this
    cases this
  unfold resolve isAbsolute
  rw [if_neg hne, String.toList_ofList, scheme?_slash, if_neg (by simp), hb]
  rfl

/-- A reference that is not read is appended. That gives the identifier if the base is the root less
its slash, and ends in a slash all the same. -/
theorem append_eq_iff (h : Legible base) (ht : text.toList = base.trunk ++ '/' :: rest) :
    append focus (String.ofList ('/' :: rest)) = text ↔
      focus.toList = base.trunk ∧ focus.toList.getLast? = some '/' := by
  obtain ⟨hmark, hslash⟩ := getLast?_trunk h
  have hsame : ∀ front : List Char, front ++ '/' :: rest = text.toList ↔ front = base.trunk := by
    intro front
    rw [ht]
    exact List.append_left_inj _
  have htext : ∀ s : String, s = text ↔ s.toList = text.toList := fun s => String.toList_inj.symm
  unfold append
  simp only [String.toList_ofList]
  split
  · next heq => exact absurd (List.cons.inj heq).1 (by decide)
  · split
    · next hlast =>
      rw [htext, String.toList_append, String.toList_ofList, hsame]
      exact (and_iff_left hlast).symm
    · next hlast =>
      rw [htext, String.toList_append, String.toList_ofList, hsame]
      constructor
      · intro hfocus
        exact absurd (hfocus ▸ hlast) hmark
      · rintro ⟨-, hslash⟩
        rw [hlast] at hslash
        cases hslash
    · next hnone _ =>
      have hlist : (focus ++ "/" ++ String.ofList ('/' :: rest)).toList =
          (focus.toList ++ ['/']) ++ '/' :: rest := by
        simp only [String.toList_append, String.toList_ofList]
        rfl
      rw [htext, hlist, hsame]
      constructor
      · intro hfocus
        rw [← hfocus, List.getLast?_concat, List.dropLast_concat] at hslash
        exact absurd (hslash rfl) hnone
      · rintro ⟨-, hlast⟩
        exact absurd hlast hnone

/-- Where nothing follows the authority of a file, there is no drive either. -/
theorem startsOnDrive_of_trunk (hb : parse? focus = some base) (hk : base.kind = .file)
    (hfocus : focus.toList = base.trunk) (hlast : focus.toList.getLast? = some '/') :
    startsOnDrive base.path = false := by
  have hl := legible_of_parse? hb
  obtain ⟨a, ha, -⟩ := hl.special (by rw [hk]; decide)
  have hnil : a.text = [] := by
    refine (getLast?_trunk_of_authority hl ha).resolve_right ?_
    rintro ⟨c, hc, hplain⟩
    rw [← hfocus, hlast] at hc
    exact (isPlain_iff.1 hplain).2.1 (Option.some.inj hc).symm
  have hscheme : base.scheme = ['f', 'i', 'l', 'e'] := by
    unfold kind Kind.ofScheme at hk
    split at hk
    · next h => exact h
    · split at hk <;> cases hk
  have hbare : ((parse? "file://").all fun i => !startsOnDrive i.path) = true := by decide +kernel
  rw [trunk_of_authority ha, hnil, hscheme] at hfocus
  rw [show focus = "file://" from String.toList_inj.1 hfocus] at hb
  rw [hb, Option.all_some] at hbare
  simpa using hbare

/-- What the relative form of an identifier under the root resolves to. -/
theorem Under.resolve_eq_iff (h : Under base rest i) (hb : parse? focus = some base) :
    resolve focus (String.ofList ('/' :: rest)) = i.text ↔
      (base.kind = .file → startsOnDrive base.path = true → startsOnDrive i.path = true) ∧
      (i.trunk = base.trunk → rest.head?.any isSlash = true →
        focus.toList = base.trunk ∧ focus.toList.getLast? = some '/' ∧
          join? base (String.ofList ('/' :: rest)) = none) := by
  have htext : ∀ j : Iri, j.text = i.text ↔ j.chars = i.chars := by
    intro j
    rw [Iri.text, Iri.text, ← String.toList_inj, String.toList_ofList, String.toList_ofList]
  rw [resolve_slash hb]
  by_cases hs : i.trunk = base.trunk ∧ rest.head?.any isSlash = true
  · -- what is read behind two slashes is something else, and what is appended may be the identifier
    obtain ⟨htrunk, hslash⟩ := hs
    cases rest with
    | nil => cases hslash
    | cons c rest =>
      cases hj : join? base (String.ofList ('/' :: c :: rest)) with
      | some j =>
        refine iff_of_false (fun hres => h.chars_ne_of_slash hslash htrunk hj ((htext j).1 hres)) ?_
        rintro ⟨-, hbare⟩
        cases (hbare htrunk hslash).2.2
      | none =>
        refine (append_eq_iff h.base_legible h.text_eq).trans ⟨?_, ?_⟩
        · rintro ⟨hfront, hlast⟩
          refine ⟨fun hk hon => ?_, fun _ _ => ⟨hfront, hlast, rfl⟩⟩
          rw [startsOnDrive_of_trunk hb hk hfront hlast] at hon
          cases hon
        · rintro ⟨-, hbare⟩
          obtain ⟨hfront, hlast, -⟩ := hbare htrunk hslash
          exact ⟨hfront, hlast⟩
  · -- otherwise the reference is read, and only a drive may come between
    have hs' : i.trunk = base.trunk → rest.head?.any isSlash = false := fun htrunk =>
      Bool.eq_false_iff.2 fun hslash => hs ⟨htrunk, hslash⟩
    by_cases hd : base.kind = .file → startsOnDrive base.path = true → startsOnDrive i.path = true
    · obtain ⟨j, hj, hchars⟩ := h.join?_of_not_slash hs' hd
      rw [hj]
      exact iff_of_true ((htext j).2 hchars) ⟨hd, fun htrunk hslash => absurd ⟨htrunk, hslash⟩ hs⟩
    · refine iff_of_false ?_ fun hand => hd hand.1
      simp only [Classical.not_imp, Bool.not_eq_true] at hd
      obtain ⟨hk, hon, hoff⟩ := hd
      have hnot : rest.head?.any isSlash = false := by
        obtain ⟨a, ha, -⟩ := h.base_legible.special (by rw [hk]; decide)
        exact hs' (h.trunk_eq_of_authority ha)
      obtain ⟨j, hj, hne⟩ := h.join?_of_drive hk hnot hon hoff
      rw [hj]
      exact fun hres => hne ((htext j).1 hres)

/-- What cannot be read as an identifier cannot be read as a reference either. -/
theorem resolve_ne_of_parse? (hb : parse? focus = some base) (hh : base.isHierarchical = true)
    (ha : base.authority = none) (ht : text.toList = base.trunk ++ '/' :: rest)
    (hnone : parse? text = none) : resolve focus (String.ofList ('/' :: rest)) ≠ text := by
  have hl := legible_of_parse? hb
  have hk := hl.kind_of_no_authority ha
  rw [parse?_of_trunk hl ht (by rw [trunk_of_no_authority ha, List.append_assoc]; rfl)] at hnone
  have hreference : (String.ofList ('/' :: rest)).toList = ['/'] ++ rest := String.toList_ofList
  have hclean : clean (String.ofList ('/' :: rest)) = '/' :: tidy rest :=
    clean_append hreference (List.forall_mem_singleton.2 rfl) (by simp)
  have hjoin : join? base (String.ofList ('/' :: rest)) = none := by
    rw [join?_slash_eq hh hclean, if_neg (by rw [hk]; decide)]
    unfold afterScheme? at hnone
    rw [show Kind.ofScheme base.scheme = .other from hk] at hnone
    simp only at hnone
    split at hnone
    · next heq =>
      obtain ⟨-, heq⟩ := List.cons.inj heq
      rw [heq]
      exact hnone
    · cases hnone
    · cases hnone
  rw [resolve_slash hb, hjoin]
  intro happend
  obtain ⟨hfocus, hlast⟩ := (append_eq_iff hl ht).1 happend
  rw [hfocus, trunk_of_no_authority ha, List.getLast?_concat] at hlast
  cases hlast

/-- Two slashes in front of a reference, of either kind, bring an authority. -/
def startsWithSlashes (reference : String) : Bool :=
  match reference.toList with
  | c :: d :: _ => isSlash c && isSlash d
  | _ => false

/-- Is the text the identifier of a file on a drive? -/
def isOnDrive (text : String) : Bool :=
  (parse? text).any fun i => i.kind == .file && startsOnDrive i.path

/-- Does an identifier end where the name of its authority would stand? -/
def isBare (text : String) : Bool :=
  root? text == some (text ++ "/") && text.toList.getLast? == some '/'

/-- Can the reference be read against the base? -/
def isReadable (base reference : String) : Bool := ((parse? base).bind (join? · reference)).isSome

theorem startsWithSlashes_ofList :
    startsWithSlashes (String.ofList ('/' :: rest)) = rest.head?.any isSlash := by
  unfold startsWithSlashes
  rw [String.toList_ofList]
  cases rest <;> rfl

theorem relativize_of_trunk (hr : r.toList = x ++ ['/']) (ht : text.toList = x ++ '/' :: rest) :
    relativize r text = String.ofList ('/' :: rest) := by
  unfold relativize
  rw [if_pos ⟨List.isPrefixOf_iff_prefix.2 ⟨rest, by rw [hr, ht]; simp⟩,
    by rw [hr, List.getLast?_concat]⟩, ht, hr]
  simp

theorem startsWithSlashes_of_isAbsolute (h : isAbsolute text = true) :
    startsWithSlashes text = false := by
  obtain ⟨⟨scheme, rest⟩, hscheme⟩ := Option.isSome_iff_exists.1 h
  unfold startsWithSlashes
  split
  · next c d behind heq =>
    rw [Bool.and_eq_false_iff]
    left
    rw [Bool.eq_false_iff]
    intro hc
    rw [heq] at hscheme
    rcases (Bool.or_eq_true_iff.1 hc).imp beq_iff_eq.1 beq_iff_eq.1 with rfl | rfl <;> cases hscheme
  · rfl

theorem Under.resolve_iff (h : Under base rest i) (hb : parse? focus = some base)
    (hr : r.toList = base.trunk ++ ['/']) :
    resolve focus (relativize r i.text) = i.text ↔
      (isOnDrive focus = true → isOnDrive i.text = true) ∧
      (root? i.text = some r → startsWithSlashes (relativize r i.text) = true →
        isBare focus = true ∧ isReadable focus (relativize r i.text) = false) := by
  have hroot : root? focus = some r := root?_eq_some_iff.2 ⟨base, hb, h.base_hierarchical, hr⟩
  have hbase : isOnDrive focus = true ↔ base.kind = .file ∧ startsOnDrive base.path = true := by
    simp [isOnDrive, hb]
  have htext : isOnDrive i.text = true ↔ base.kind = .file ∧ startsOnDrive i.path = true := by
    simp [isOnDrive, h.read, kind, h.scheme_eq]
  have htrunk : root? i.text = some r ↔ i.trunk = base.trunk := by
    rw [root?_eq_some_iff, hr, h.read]
    simp only [Option.some.injEq, exists_eq_left', h.isHierarchical, true_and]
    rw [List.append_left_inj, eq_comm]
  have hbare : isBare focus = true ↔
      focus.toList = base.trunk ∧ focus.toList.getLast? = some '/' := by
    have hslash : r = focus ++ "/" ↔ focus.toList = base.trunk := by
      rw [← String.toList_inj, hr, String.toList_append, eq_comm]
      exact List.append_left_inj _
    simp [isBare, hroot, hslash]
  have hnone : isReadable focus (String.ofList ('/' :: rest)) = false ↔
      join? base (String.ofList ('/' :: rest)) = none := by
    simp [isReadable, hb]
  rw [relativize_of_trunk hr h.text_eq, h.resolve_eq_iff hb,
    startsWithSlashes_ofList, hbase, htext, htrunk, hbare, hnone, and_assoc]
  exact and_congr_left' ⟨fun hd hon => ⟨hon.1, hd hon.1 hon.2⟩, fun hd hk hon => (hd ⟨hk, hon⟩).2⟩

/--
Where the root can be read again, the relative form of an identifier resolves to the identifier
exactly if, under the root, the identifier can be read and does not lead from a file on a drive to a
file on none, and its relative form does not start with two slashes. A form that does, but cannot be
read, is put back by chance where the base is bare.
-/
theorem resolve_relativize_iff (hr : root? focus = some r) (hread : (parse? r).isSome = true)
    (ha : isAbsolute text = true) (hn : normalize text = text) :
    resolve focus (relativize r text) = text ↔
      (r.toList.isPrefixOf text.toList = true →
        (parse? text).isSome = true ∧ (isOnDrive focus = true → isOnDrive text = true)) ∧
      (root? text = some r → startsWithSlashes (relativize r text) = true →
        isBare focus = true ∧ isReadable focus (relativize r text) = false) := by
  by_cases hp : r.toList.isPrefixOf text.toList = true
  · obtain ⟨base, hb, hh, hroot⟩ := root?_eq_some_iff.1 hr
    have hl := legible_of_parse? hb
    obtain ⟨rest, ht⟩ := List.isPrefixOf_iff_prefix.1 hp
    have htext : text.toList = base.trunk ++ '/' :: rest := by
      rw [← ht, hroot]
      simp
    cases hi : parse? text with
    | some i =>
      obtain rfl : i.text = text := by
        unfold normalize at hn
        rwa [hi] at hn
      have h : Under base rest i :=
        { base_legible := hl
          base_hierarchical := hh
          read := hi
          chars_eq := by rw [← htext, Iri.text, String.toList_ofList] }
      simpa [hp] using h.resolve_iff hb hroot
    | none =>
      refine iff_of_false ?_ fun h => Option.isSome_iff_ne_none.1 (h.1 hp).1 rfl
      rw [relativize_of_trunk hroot htext]
      cases hauthority : base.authority with
      | some a =>
        have := parse?_isSome_of_root hl hauthority hroot hread htext
        rw [hi] at this
        cases this
      | none => exact resolve_ne_of_parse? hb hh hauthority htext hi
  · -- any other identifier is left alone, and resolves to its own normal form
    have hsame : relativize r text = text := if_neg fun h => hp h.1
    have hne : text ≠ "" := by
      rintro rfl
      cases ha
    rw [hsame, resolve, if_neg hne, if_pos ha, startsWithSlashes_of_isAbsolute ha]
    exact iff_of_true hn ⟨fun h => absurd h hp, fun _ h => absurd h Bool.false_ne_true⟩

/-- A neighbour resolves back, and so does a file on another drive. A path that starts with an empty
segment does not. -/
theorem resolve_relativize_iff_neighbours :
    resolve "https://h/alice" (relativize "https://h/" "https://h/bob?x#y") = "https://h/bob?x#y" ∧
      resolve "file:///C:/a" (relativize "file:///" "file:///D:/b") = "file:///D:/b" ∧
      resolve "app://h/alice" (relativize "app://h/" "app://h//x") ≠ "app://h//x" := by
  refine ⟨?_, ?_, ?_⟩
  · exact (resolve_relativize_iff (by decide +kernel) (by decide +kernel) (by decide +kernel)
      (by decide +kernel)).2 (by decide +kernel)
  · exact (resolve_relativize_iff (by decide +kernel) (by decide +kernel) (by decide +kernel)
      (by decide +kernel)).2 (by decide +kernel)
  · intro h
    exact absurd ((resolve_relativize_iff (by decide +kernel) (by decide +kernel)
      (by decide +kernel) (by decide +kernel)).1 h) (by decide +kernel)

/-- The cut leaves two slashes, also with a backslash where it does not separate segments, loses to
the drive of the focus, or leaves what cannot be read. -/
theorem resolve_relativize_ne :
    (root? "https://h/alice" = some "https://h/" ∧ isAbsolute "https://h//x" = true ∧
      normalize "https://h//x" = "https://h//x" ∧
      relativize "https://h/" "https://h//x" = "//x" ∧
      resolve "https://h/alice" "//x" = "https://x/") ∧
    (root? "app://h/a" = some "app://h/" ∧ isAbsolute "app://h/\\x" = true ∧
      normalize "app://h/\\x" = "app://h/\\x" ∧
      relativize "app://h/" "app://h/\\x" = "/\\x" ∧
      resolve "app://h/a" "/\\x" = "app://x") ∧
    (root? "file:///D:/y" = some "file:///" ∧ isAbsolute "file:///foo" = true ∧
      normalize "file:///foo" = "file:///foo" ∧
      relativize "file:///" "file:///foo" = "/foo" ∧
      resolve "file:///D:/y" "/foo" = "file:///D:/foo") ∧
    root? "app:/a" = some "app:/" ∧ isAbsolute "app://]" = true ∧
      normalize "app://]" = "app://]" ∧
      relativize "app:/" "app://]" = "//]" ∧
      resolve "app:/a" "//]" = "app:/a///]" := by
  decide +kernel

end LinkedShapes.Iri
