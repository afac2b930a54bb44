import LinkedShapes.Proofs.Iri.Drive
import LinkedShapes.Proofs.Iri.Slashes

/-!
# Paths from the root

Behind the root, an identifier goes on with its path, and so does a reference with one slash in
front. Files are read in a way of their own: their hosts may be taken for drives, and a reference
keeps the drive of its base.

* `afterScheme?_slash`: what stands behind the root is read as a path.
* `afterScheme?_isSome`: whether it can be read depends on the root alone.
* `join?_slash`, `join?_slash_of_file`: so is a reference with one slash in front.
* `join?_slash_of_drive`: unless the base is on a drive, which is kept.
* `join?_slashes`: with two slashes in front it is read as an authority.
-/

namespace LinkedShapes.Iri

open Text

variable {scheme rest t x y : List Char} {kind : Kind} {a A : Authority} {i base : Iri}
variable {focus r text : String}

/-! ## Texts that are read as they are -/

/-- What is left of a text whose end is not to be seen. -/
def tidy (rest : List Char) : List Char :=
  ((rest.reverse.dropWhile isBlank).reverse).filter (!isBreak ·)

/-- Nothing visible is dropped. -/
theorem clean_append {front : List Char} (ht : text.toList = front ++ rest)
    (hf : ∀ c ∈ front, isVisible c = true) (hne : front ≠ []) :
    clean text = front ++ tidy rest := by
  have hblank : ∀ c ∈ front, isBlank c = false := fun c hc => by
    simpa [isBlank, isVisible] using hf c hc
  have hbreak : ∀ c ∈ front, isBreak c = false := by
    intro c hc
    have hc := hf c hc
    unfold isBreak
    simp only [Bool.or_eq_false_iff, beq_eq_false_iff_ne]
    refine ⟨⟨?_, ?_⟩, ?_⟩ <;>
    · rintro rfl
      cases hc
  have hdrop : ∀ cs others : List Char, cs ≠ [] → (∀ c ∈ cs, isBlank c = false) →
      (cs ++ others).dropWhile isBlank = cs ++ others := by
    intro cs others hcs hall
    obtain ⟨c, cs, rfl⟩ := List.exists_cons_of_ne_nil hcs
    rw [List.cons_append, List.dropWhile_cons_of_neg (by simp [hall c])]
  -- from behind, blanks are dropped up to the visible text at most
  have hend : (rest.reverse ++ front.reverse).dropWhile isBlank =
      rest.reverse.dropWhile isBlank ++ front.reverse := by
    have hfront := hdrop front.reverse [] (by simpa using hne)
      fun c hc => hblank c (List.mem_reverse.1 hc)
    rw [List.append_nil] at hfront
    rw [List.dropWhile_append, hfront]
    split
    · next hnil => rw [List.isEmpty_iff.1 hnil, List.nil_append]
    · rfl
  have hkeep : front.filter (!isBreak ·) = front :=
    List.filter_eq_self.2 fun c hc => by rw [hbreak c hc]; rfl
  unfold clean
  rw [ht, hdrop front rest hne hblank, List.reverse_append, hend, List.reverse_append,
    List.reverse_reverse, List.filter_append, hkeep]
  rfl

theorem clean_of_isVisible (h : ∀ c ∈ text.toList, isVisible c = true) :
    clean text = text.toList := by
  by_cases hne : text.toList = []
  · unfold clean
    rw [hne]
    rfl
  · rw [clean_append (List.append_nil _).symm h hne]
    exact List.append_nil _

/-- Texts without a separator in front of their first one are equal in front of it and behind. -/
theorem append_cons_inj {s : Char} (hx : ∀ c ∈ x, c ≠ s) (hy : ∀ c ∈ y, c ≠ s) {u v : List Char}
    (h : x ++ s :: u = y ++ s :: v) : x = y ∧ u = v := by
  induction x generalizing y with
  | nil =>
    cases y with
    | nil => exact ⟨rfl, (List.cons.inj h).2⟩
    | cons d y => exact absurd (List.cons.inj h).1.symm (hy d List.mem_cons_self)
  | cons c x ih =>
    obtain ⟨hc, hx⟩ := List.forall_mem_cons.1 hx
    cases y with
    | nil => exact absurd (List.cons.inj h).1 hc
    | cons d y =>
      obtain ⟨rfl, htail⟩ := List.cons.inj h
      obtain ⟨rfl, rfl⟩ := ih hx (List.forall_mem_cons.1 hy).2 htail
      exact ⟨rfl, rfl⟩

theorem ne_slash_of_isPlain {c : Char} (h : isPlain c = true) : c ≠ '/' := (isPlain_iff.1 h).2.1

/-! ## Behind the root -/

/-- What a slash and the text behind it give, if the path is that of the text behind it. -/
theorem withPath_slash {a? : Option Authority} {f g : List Char → List Char}
    (h : ∀ given, f ('/' :: given) = g given) :
    withPath scheme a? f ('/' :: rest) = withPath scheme a? g rest := by
  have htake : ('/' :: rest).takeWhile (!endsPath ·) = '/' :: rest.takeWhile (!endsPath ·) := rfl
  have hdrop : ('/' :: rest).dropWhile (!endsPath ·) = rest.dropWhile (!endsPath ·) := rfl
  unfold withPath
  simp only [List.span_eq_takeWhile_dropWhile, htake, hdrop, h]

theorem rootedPath_slash (given : List Char) :
    rootedPath kind ('/' :: given) = Path.follow kind [] given := by
  unfold rootedPath dropSeparator
  rw [if_neg (by simp)]
  simp [Path.isSeparator]

/-- An authority that is written plain is followed by a path from the root. -/
theorem withAuthority?_slash (scheme : List Char) (ht : ∀ c ∈ t, isPlain c = true) :
    ∃ a? : Option Authority, ∀ rest, withAuthority? scheme (t ++ '/' :: rest) =
      a?.map fun A => withPath scheme (some A) (Path.follow (.ofScheme scheme) []) rest := by
  obtain ⟨a?, ha⟩ := authority?_slash scheme ht
  refine ⟨a?, fun rest => ?_⟩
  unfold withAuthority?
  rw [ha]
  cases a? with
  | none => rfl
  | some A => exact congrArg some (withPath_slash rootedPath_slash)

section Files

variable (ht : ∀ c ∈ t, isPlain c = true)

include ht

theorem takeWhile_host (rest : List Char) :
    (t ++ '/' :: rest).takeWhile (fun c => !(isSlash c || endsPath c)) = t ∧
      (t ++ '/' :: rest).dropWhile (fun c => !(isSlash c || endsPath c)) = '/' :: rest :=
  takeWhile_slash (fun c hc => by
    obtain ⟨hslash, hend⟩ := not_isSlash_of_isPlain (ht c hc)
    simp [hslash, hend]) rfl

/-- The host of a file, unless it is a drive, is followed by a path from the root. -/
theorem fileWithHost?_slash (h : fileWithHost? scheme (t ++ '/' :: rest) = some i) :
    ∃ (A : Authority) (given : List Char),
      i = withPath scheme (some A) (Path.follow .file []) given ∧
      (Path.isDrive t = true ∧ A.text = [] ∨
        given = rest ∧ (startsOnDrive i.path = true → A.text = [])) := by
  obtain ⟨htake, hdrop⟩ := takeWhile_host ht rest
  rcases fileWithHost?_cases h with ⟨hdrive, heq⟩ | ⟨host, -, heq, hempty⟩
  · rw [htake] at hdrive
    exact ⟨.empty, _, heq, .inl ⟨hdrive, rfl⟩⟩
  · rw [hdrop] at heq
    refine ⟨_, rest, heq.trans (withPath_slash rootedPath_slash), .inr ⟨rfl, fun hd => ?_⟩⟩
    rw [hempty hd]
    rfl

/-- Only the host decides whether a file is read. -/
theorem fileWithHost?_isSome (h : (fileWithHost? scheme (t ++ '/' :: x)).isSome = true)
    (y : List Char) : (fileWithHost? scheme (t ++ '/' :: y)).isSome = true := by
  unfold fileWithHost? at h ⊢
  simp only [List.span_eq_takeWhile_dropWhile, takeWhile_host ht] at h ⊢
  split
  · rfl
  · next hdrive =>
    rw [if_neg hdrive] at h
    split
    · rw [Option.bind_eq_bind, Option.bind_some]
      split <;> rfl
    · next hempty =>
      rw [if_neg hempty] at h
      cases hhost : Host.ofDomain? t with
      | none =>
        rw [hhost] at h
        cases h
      | some host =>
        rw [Option.bind_eq_bind, Option.bind_some]
        split <;> rfl

end Files

section Schemes

variable (ht : ∀ c ∈ t, isPlain c = true) (hweb : Kind.ofScheme scheme = .web → t ≠ [])

include ht hweb

theorem afterScheme?_slash_eq (rest : List Char) :
    afterScheme? scheme ('/' :: '/' :: (t ++ '/' :: rest)) =
      if Kind.ofScheme scheme = .file then fileWithHost? scheme (t ++ '/' :: rest)
      else withAuthority? scheme (t ++ '/' :: rest) := by
  unfold afterScheme?
  split
  · next hk =>
    rw [if_pos hk]
    rfl
  · next hk =>
    -- the slashes in front end where the authority starts
    obtain ⟨c, t, rfl⟩ := List.exists_cons_of_ne_nil (hweb hk)
    have hc := (not_isSlash_of_isPlain (ht c List.mem_cons_self)).1
    rw [if_neg (by rw [hk]; decide), List.dropWhile_cons_of_pos rfl, List.dropWhile_cons_of_pos rfl,
      List.cons_append, List.dropWhile_cons_of_neg (Bool.eq_false_iff.1 hc)]
  · next hk =>
    rw [if_neg (by rw [hk]; decide)]
    rfl

/-- What is read behind an authority; a host with the name of a drive is none. -/
theorem afterScheme?_slash (h : afterScheme? scheme ('/' :: '/' :: (t ++ '/' :: rest)) = some i) :
    ∃ (A : Authority) (given : List Char),
      i = withPath scheme (some A) (Path.follow (.ofScheme scheme) []) given ∧
      (Path.isDrive t = true ∧ A.text = [] ∨ given = rest ∧
        (Kind.ofScheme scheme = .file → startsOnDrive i.path = true → A.text = [])) := by
  rw [afterScheme?_slash_eq ht hweb] at h
  split at h
  · next hk =>
    obtain ⟨A, given, heq, hcases⟩ := fileWithHost?_slash ht h
    exact ⟨A, given, hk ▸ heq, hcases.imp_right fun hplace => ⟨hplace.1, fun _ => hplace.2⟩⟩
  · next hk =>
    obtain ⟨a?, ha⟩ := withAuthority?_slash scheme ht
    rw [ha] at h
    obtain ⟨A, -, rfl⟩ := Option.map_eq_some_iff.1 h
    exact ⟨A, rest, rfl, .inr ⟨rfl, fun hfile => absurd hfile hk⟩⟩

/-- Whether an identifier is read does not depend on what stands behind its root. -/
theorem afterScheme?_isSome
    (h : (afterScheme? scheme ('/' :: '/' :: (t ++ '/' :: x))).isSome = true) (y : List Char) :
    (afterScheme? scheme ('/' :: '/' :: (t ++ '/' :: y))).isSome = true := by
  rw [afterScheme?_slash_eq ht hweb] at h ⊢
  split at h
  · next hk =>
    rw [if_pos hk]
    exact fileWithHost?_isSome ht h y
  · next hk =>
    obtain ⟨a?, ha⟩ := withAuthority?_slash scheme ht
    rw [ha, Option.isSome_map] at h
    rw [if_neg hk, ha, Option.isSome_map, h]

end Schemes

/-! ## References with a slash in front -/

theorem scheme?_slash : scheme? ('/' :: rest) = none := rfl

theorem clean_ofList (hv : ∀ c ∈ t, isVisible c = true) : clean (String.ofList t) = t := by
  rw [clean_of_isVisible (by rwa [String.toList_ofList]), String.toList_ofList]

/-- The base decides how a reference with a slash in front is read. -/
theorem join?_slash_eq (hb : base.isHierarchical = true) (hc : clean text = '/' :: rest) :
    join? base text = if base.kind = .file then file? base.scheme (some base) ('/' :: rest)
      else relative? base ('/' :: rest) := by
  unfold join?
  simp only [hc, scheme?_slash, List.head?_cons, hb]
  rw [if_neg (by decide), if_neg (by decide)]

theorem relative?_slash (hs : rest.head?.any isSlash = false) :
    relative? base ('/' :: rest) =
      some (withPath base.scheme base.authority (Path.follow base.kind []) rest) := by
  unfold relative?
  split
  · next heq => cases heq
  · next heq => exact absurd (List.cons.inj heq).1 (by decide)
  · next heq => exact absurd (List.cons.inj heq).1 (by decide)
  · next c behind _ _ heq =>
    obtain ⟨rfl, rfl⟩ := List.cons.inj heq
    rw [if_pos (show isSlash '/' = true from rfl)]
    split
    · next heq =>
      rw [(List.cons.inj heq).2] at hs
      cases hs
    · rw [if_neg (Bool.eq_false_iff.1 hs)]

theorem join?_slash (hb : base.isHierarchical = true) (hk : base.kind ≠ .file)
    (hv : ∀ c ∈ '/' :: rest, isVisible c = true) (hs : rest.head?.any isSlash = false) :
    join? base (String.ofList ('/' :: rest)) =
      some (withPath base.scheme base.authority (Path.follow base.kind []) rest) := by
  rw [join?_slash_eq hb (clean_ofList hv), if_neg hk, relative?_slash hs]

section Files

variable (hb : base.isHierarchical = true) (hk : base.kind = .file)
variable (hv : ∀ c ∈ '/' :: rest, isVisible c = true) (hs : rest.head?.any isSlash = false)

include hb hk hv hs

/-- A reference from one file to another that keeps the drive of the base. -/
theorem join?_slash_of_drive {first : List Char} (hd : Path.startsWithDrive rest = false)
    (hf : (Path.segments base.path).head? = some first) (hfirst : Path.isPlainDrive first = true) :
    join? base (String.ofList ('/' :: rest)) =
      some (withPath base.scheme (some .empty) (Path.follow .file [first]) rest) := by
  have htail : ∀ given : List Char,
      (fun given => Path.follow .file [first] given.tail) ('/' :: given) =
        Path.follow .file [first] given := fun _ => rfl
  have hslash : isSlash '/' = true := rfl
  rw [join?_slash_eq hb (clean_ofList hv), if_pos hk]
  simp only [file?, hslash, if_true, hs, Bool.false_eq_true, if_false, hd, hf, Option.filter_some,
    hfirst, Option.toList, Option.isSome]
  exact congrArg some (withPath_slash htail)

/-- A reference from one file to another with a drive of its own, or from a file that is on none. -/
theorem join?_slash_of_file
    (hd : startsOnDrive base.path = true → Path.startsWithDrive rest = true) :
    join? base (String.ofList ('/' :: rest)) = some (withPath base.scheme
      (if Path.startsWithDrive rest then some .empty else base.authority)
      (Path.follow .file []) rest) := by
  have htail : ∀ given : List Char, (fun given => Path.follow .file [] given.tail) ('/' :: given) =
      Path.follow .file [] given := fun _ => rfl
  have hslash : isSlash '/' = true := rfl
  rw [join?_slash_eq hb (clean_ofList hv), if_pos hk]
  simp only [file?, hslash, if_true, hs, Bool.false_eq_true, if_false]
  cases hdrive : Path.startsWithDrive rest with
  | true =>
    simp only [if_true]
    exact congrArg some (withPath_slash htail)
  | false =>
    -- the drive of the base would have been one of the reference, too
    have hnone : (Path.segments base.path).head?.filter Path.isPlainDrive = none := by
      have hoff : startsOnDrive base.path = false := Bool.eq_false_iff.2 fun h => by
        rw [hd h] at hdrive
        cases hdrive
      cases hfirst : (Path.segments base.path).head? with
      | none => rfl
      | some first =>
        rw [startsOnDrive, hfirst] at hoff
        exact Option.filter_eq_none_iff.2 fun _ h => by
          cases h
          exact Bool.eq_false_iff.1 hoff
    simp only [hnone, Bool.false_eq_true, if_false, Option.toList, Option.isSome]
    exact congrArg some (withPath_slash htail)

end Files

/-- A reference with two slashes in front brings an authority, and at most one slash more. -/
theorem join?_slashes {c : Char} (hb : base.isHierarchical = true) (hs : IsScheme base.scheme)
    (hv : ∀ d ∈ '/' :: c :: rest, isVisible d = true) (hc : isSlash c = true)
    (h : join? base (String.ofList ('/' :: c :: rest)) = some i) :
    i.authority.isSome = true ∧ i.scheme = base.scheme ∧ slashes i.chars ≤ slashes rest + 3 := by
  have hplain : ∀ {text : List Char}, slashes text ≤ slashes rest →
      withAuthority? base.scheme text = some i →
      i.authority.isSome = true ∧ i.scheme = base.scheme ∧ slashes i.chars ≤ slashes rest + 3 := by
    intro text hle h
    refine ⟨?_, withAuthority?_scheme h, (slashes_of_withAuthority? hs h).trans (by omega)⟩
    obtain ⟨⟨a, rest⟩, -, h⟩ := Option.bind_eq_some_iff.1 h
    cases h
    rfl
  rw [join?_slash_eq hb (clean_ofList hv)] at h
  split at h
  · have hslash : isSlash '/' = true := rfl
    simp only [file?, hslash, if_true, List.head?_cons, Option.any_some, hc, List.tail_cons] at h
    refine ⟨?_, fileWithHost?_scheme h, slashes_of_fileWithHost? hs h⟩
    rcases fileWithHost?_cases h with ⟨-, rfl⟩ | ⟨host, -, rfl, -⟩ <;> rfl
  · unfold relative? at h
    split at h
    · next heq => cases heq
    · next heq => exact absurd (List.cons.inj heq).1 (by decide)
    · next heq => exact absurd (List.cons.inj heq).1 (by decide)
    · next heq =>
      obtain ⟨rfl, rfl⟩ := List.cons.inj heq
      rw [if_pos (show isSlash '/' = true from rfl)] at h
      split at h
      · next heq =>
        have hrest := (List.cons.inj (List.cons.inj heq).2).2
        exact hplain (Nat.le_of_eq (congrArg slashes hrest.symm)) h
      · rw [List.head?_cons, Option.any_some, if_pos hc, List.dropWhile_cons_of_pos hc] at h
        exact hplain (slashes_le_of_sublist (List.dropWhile_sublist _)) h

end LinkedShapes.Iri
