import LinkedShapes.Proofs.Iri.Parts

/-!
# Slashes

Slashes of both kinds are counted. No part of an identifier has more of them than the text it is
read from: bytes are written without, and walking a path drops segments but adds none. Behind an
authority at most one is added, where the path starts.

* `slashes_follow_le`: the slashes of a path that is walked.
* `slashes_of_withAuthority?`, `slashes_of_fileWithHost?`: those of an identifier with an authority.
-/

namespace LinkedShapes.Iri

open Text

variable {scheme text rest x y : List Char} {kind : Kind} {a : Authority} {i : Iri}
variable {before segments : List (List Char)} {segment : List Char}

/-- The number of slashes in a text. -/
def slashes (text : List Char) : Nat := text.countP isSlash

@[simp] theorem slashes_nil : slashes [] = 0 := rfl

@[simp] theorem slashes_append : slashes (x ++ y) = slashes x + slashes y := List.countP_append

theorem slashes_cons (c : Char) (text : List Char) :
    slashes (c :: text) = slashes text + if isSlash c then 1 else 0 := List.countP_cons

theorem slashes_slash (text : List Char) : slashes ('/' :: text) = slashes text + 1 :=
  slashes_cons _ _

theorem slashes_le_of_sublist (h : x.Sublist y) : slashes x ≤ slashes y := h.countP_le

theorem slashes_of_isPlain (h : ∀ c ∈ text, isPlain c = true) : slashes text = 0 :=
  List.countP_eq_zero.2 fun c hc => Bool.eq_false_iff.1 (not_isSlash_of_isPlain (h c hc)).1

theorem slashes_of_isScheme (h : IsScheme scheme) : slashes scheme = 0 := by
  refine List.countP_eq_zero.2 fun c hc => ?_
  have hslash : isSchemeChar '/' = false ∧ isSchemeChar '\\' = false := by decide
  have hchar := (h.2 c hc).1
  intro hc
  rcases (Bool.or_eq_true_iff.1 hc).imp beq_iff_eq.1 beq_iff_eq.1 with rfl | rfl
  · rw [hslash.1] at hchar
    cases hchar
  · rw [hslash.2] at hchar
    cases hchar

theorem slashes_encode_le (escaped : Char → Bool) (text : List Char) :
    slashes (Percent.encode escaped text) ≤ slashes text := by
  induction text with
  | nil => exact Nat.le_refl _
  | cons c text ih =>
    rw [Percent.encode, List.flatMap_cons, slashes_append, slashes_cons, Nat.add_comm]
    refine Nat.add_le_add ih ?_
    split
    · -- digits are no slashes
      rw [slashes_of_isPlain]
      · exact Nat.zero_le _
      · have hplain : ∀ d ∈ Percent.encode (fun _ => true) [c], isPlain d = true :=
          isPlain_of_mem_encode fun _ _ h => Bool.noConfusion h
        simpa [Percent.encode] using hplain
    · rw [slashes_cons, slashes_nil, Nat.zero_add]

/-! ## Paths -/

theorem ofSegments_cons (segment : List Char) (segments : List (List Char)) :
    Path.ofSegments (segment :: segments) = '/' :: (segment ++ Path.ofSegments segments) :=
  List.flatMap_cons

theorem slashes_ofSegments_cons (segment : List Char) (segments : List (List Char)) :
    slashes (Path.ofSegments (segment :: segments)) =
      slashes segment + slashes (Path.ofSegments segments) + 1 := by
  rw [ofSegments_cons, slashes_slash, slashes_append]

theorem slashes_ofSegments_reverse (segments : List (List Char)) :
    slashes (Path.ofSegments segments.reverse) = slashes (Path.ofSegments segments) :=
  ((List.reverse_perm segments).flatMap_right _).countP_eq _

theorem slashes_ofSegments_map_le (escaped : Char → Bool) (segments : List (List Char)) :
    slashes (Path.ofSegments (segments.map (Percent.encode escaped))) ≤
      slashes (Path.ofSegments segments) := by
  induction segments with
  | nil => exact Nat.le_refl _
  | cons segment segments ih =>
    rw [List.map_cons, slashes_ofSegments_cons, slashes_ofSegments_cons]
    have := slashes_encode_le escaped segment
    omega

/-- Every slash that separates segments is one in front of a segment. -/
theorem slashes_ofSegments_split_le (kind : Kind) (text : List Char) :
    slashes (Path.ofSegments (split (Path.isSeparator kind) text)) ≤ slashes text + 1 := by
  induction text with
  | nil => exact Nat.le_refl _
  | cons c text ih =>
    rw [split, slashes_cons]
    split
    · next hc =>
      have hslash : isSlash c = true := by
        simp only [Path.isSeparator, Bool.or_eq_true, Bool.and_eq_true] at hc
        simp only [isSlash, Bool.or_eq_true]
        exact hc.imp_right And.right
      rw [slashes_ofSegments_cons, if_pos hslash, slashes_nil]
      omega
    · split
      · next hnil => exact absurd hnil (split_ne_nil _ _)
      · next hsplit =>
        rw [hsplit, slashes_ofSegments_cons] at ih
        rw [slashes_ofSegments_cons, slashes_cons]
        omega

theorem slashes_back_le (before : List (List Char)) :
    slashes (Path.ofSegments (Path.back before)) ≤ slashes (Path.ofSegments before) := by
  cases before with
  | nil => exact Nat.le_refl _
  | cons first before =>
    rw [Path.back]
    split
    · exact Nat.le_refl _
    · rw [slashes_ofSegments_cons]
      omega

theorem slashes_step_dots_le (kind : Kind) (before : List (List Char))
    (h : (Path.isBack segment || Path.isHere segment) = true) :
    slashes (Path.ofSegments (Path.step kind before segment)) ≤
      slashes (Path.ofSegments before) := by
  unfold Path.step
  split
  · exact slashes_back_le before
  · next hback =>
    rw [Bool.eq_false_iff.2 hback, Bool.false_or] at h
    rw [if_pos h]

theorem slashes_step_le (kind : Kind) (before : List (List Char)) (segment : List Char) :
    slashes (Path.ofSegments (Path.step kind before segment)) ≤
      slashes segment + slashes (Path.ofSegments before) + 1 := by
  by_cases hdots : (Path.isBack segment || Path.isHere segment) = true
  · have := slashes_step_dots_le kind before hdots
    omega
  · rw [Bool.not_eq_true, Bool.or_eq_false_iff] at hdots
    unfold Path.step
    rw [if_neg (Bool.eq_false_iff.1 hdots.1), if_neg (Bool.eq_false_iff.1 hdots.2)]
    split
    · -- the colon that ends a drive is no slash
      have hname : slashes (segment.take 1 ++ [':']) ≤ slashes segment := by
        rw [slashes_append]
        exact slashes_le_of_sublist (List.take_sublist _ _)
      have hnone : slashes (Path.ofSegments []) = 0 := rfl
      rw [slashes_ofSegments_cons]
      omega
    · rw [slashes_ofSegments_cons]

/-- Walking a path adds no slash. -/
theorem slashes_walk_le (kind : Kind) (before given : List (List Char)) :
    slashes (Path.ofSegments (Path.walk kind before given)) ≤
      slashes (Path.ofSegments before) + slashes (Path.ofSegments given) := by
  induction given generalizing before with
  | nil => exact Nat.le_add_right _ _
  | cons segment given ih =>
    have hstep := slashes_step_le kind before segment
    rw [slashes_ofSegments_cons segment]
    cases given with
    | nil =>
      rw [Path.walk]
      split
      · next hdots =>
        -- an empty segment takes the place of the dots
        have := slashes_step_dots_le kind before hdots
        rw [slashes_ofSegments_cons, slashes_nil]
        omega
      · omega
    | cons next given =>
      rw [Path.walk]
      · have := ih (Path.step kind before segment)
        omega
      · exact List.cons_ne_nil _ _

theorem slashes_dropEmpty_le (segments : List (List Char)) :
    slashes (Path.ofSegments (Path.dropEmpty segments)) ≤ slashes (Path.ofSegments segments) := by
  fun_induction Path.dropEmpty segments with
  | case1 segment segments ih =>
    rw [slashes_ofSegments_cons []]
    omega
  | case2 => exact Nat.le_refl _

theorem slashes_follow_le (kind : Kind) (text : List Char) :
    slashes (Path.follow kind [] text) ≤ slashes text + 1 := by
  have hsplit := slashes_ofSegments_split_le kind text
  have hmap := slashes_ofSegments_map_le Path.isEscaped (split (Path.isSeparator kind) text)
  have hwalk := slashes_walk_le kind []
    ((split (Path.isSeparator kind) text).map (Percent.encode Path.isEscaped))
  have hnil : slashes (Path.ofSegments []) = 0 := rfl
  rw [← slashes_ofSegments_reverse] at hwalk
  unfold Path.follow
  simp only
  split
  · have := slashes_dropEmpty_le (Path.walk kind []
      ((split (Path.isSeparator kind) text).map (Percent.encode Path.isEscaped))).reverse
    omega
  · omega

theorem slashes_rootedPath_le (kind : Kind) (given : List Char) :
    slashes (rootedPath kind given) ≤ slashes given + 1 := by
  have hdrop : (dropSeparator kind given).Sublist given := by
    unfold dropSeparator
    split
    · split
      · exact List.sublist_cons_self _ _
      · exact List.Sublist.refl _
    · exact List.Sublist.refl _
  unfold rootedPath
  split
  · exact Nat.zero_le _
  · exact (slashes_follow_le _ _).trans (Nat.succ_le_succ (slashes_le_of_sublist hdrop))

/-! ## Identifiers -/

theorem slashes_queryAndFragment_le (kind : Kind) (text : List Char) :
    slashes (marked '?' (queryAndFragment kind text).1) +
      slashes (marked '#' (queryAndFragment kind text).2) ≤ slashes text := by
  have hparts : slashes (text.takeWhile (· != '#')) + slashes (text.dropWhile (· != '#')) =
      slashes text := by
    rw [← slashes_append, List.takeWhile_append_dropWhile]
  unfold queryAndFragment
  rw [List.span_eq_takeWhile_dropWhile]
  simp only
  refine (Nat.add_le_add ?_ ?_).trans_eq hparts
  · split
    · next heq =>
      rw [heq]
      exact slashes_encode_le _ _
    · exact Nat.zero_le _
  · split
    · next heq =>
      rw [heq, slashes_cons]
      exact (slashes_encode_le _ _).trans (Nat.le_add_right _ _)
    · exact Nat.zero_le _

theorem slashes_withPath_le (scheme : List Char) (a? : Option Authority)
    {path : List Char → List Char} (text : List Char)
    (hp : ∀ given, slashes (path given) ≤ slashes given + 1) :
    let i := withPath scheme a? path text
    slashes (i.path ++ (marked '?' i.query ++ marked '#' i.fragment)) ≤ slashes text + 1 := by
  intro i
  have hpath := hp (text.takeWhile (!endsPath ·))
  have hbehind := slashes_queryAndFragment_le (.ofScheme scheme) (text.dropWhile (!endsPath ·))
  have hparts : slashes (text.takeWhile (!endsPath ·)) + slashes (text.dropWhile (!endsPath ·)) =
      slashes text := by
    rw [← slashes_append, List.takeWhile_append_dropWhile]
  simp only [i, withPath, List.span_eq_takeWhile_dropWhile, slashes_append]
  omega

theorem slashes_hostText_le (kind : Kind) (inBrackets : Bool) (text : List Char) :
    slashes (hostText kind inBrackets text).2 ≤ slashes text := by
  induction text generalizing inBrackets with
  | nil => exact Nat.le_refl _
  | cons c text ih =>
    rw [hostText]
    split
    · exact Nat.le_refl _
    · rw [slashes_cons]
      exact (ih _).trans (Nat.le_add_right _ _)

theorem slashes_of_port? {n? : Option Nat} (h : port? scheme text = some (n?, rest)) :
    slashes rest ≤ slashes text := by
  unfold port? at h
  split at h
  · next digits =>
    rw [List.span_eq_takeWhile_dropWhile] at h
    simp only at h
    split at h
    · cases h
    · cases h
      exact slashes_le_of_sublist ((List.dropWhile_sublist _).trans (List.sublist_cons_self _ _))
  · cases h
    exact Nat.le_refl _

theorem slashes_of_authority? (h : authority? scheme text = some (a, rest)) :
    slashes rest ≤ slashes text := by
  obtain ⟨user?, place, name, more, hsplit, hhost, -, -, hport⟩ := authority?_steps h
  have hplace := slashes_le_of_sublist (sublist_of_splitAtLast hsplit)
  have hmore := slashes_hostText_le (.ofScheme scheme) false
    (place ++ text.dropWhile fun c => !(Path.isSeparator (.ofScheme scheme) c || endsPath c))
  have hparts := congrArg slashes (List.takeWhile_append_dropWhile
    (p := fun c => !(Path.isSeparator (.ofScheme scheme) c || endsPath c)) (l := text))
  rw [slashes_append] at hmore hparts
  rw [hhost] at hmore
  have hrest := slashes_of_port? hport
  simp only at hmore
  omega

theorem slashes_chars (hs : IsScheme i.scheme) (ha : i.authority = some a)
    (hp : ∀ c ∈ a.text, isPlain c = true) : slashes i.chars =
      slashes (i.path ++ (marked '?' i.query ++ marked '#' i.fragment)) + 2 := by
  have hcolon : ∀ text, slashes (':' :: text) = slashes text := fun text => slashes_cons _ _
  rw [chars_of_authority ha, slashes_append, slashes_of_isScheme hs, hcolon, slashes_slash,
    slashes_slash, slashes_append, slashes_of_isPlain hp, Nat.zero_add, Nat.zero_add]

theorem slashes_of_withAuthority? (hs : IsScheme scheme) (h : withAuthority? scheme text = some i) :
    slashes i.chars ≤ slashes text + 3 := by
  obtain ⟨⟨a, rest⟩, ha, h⟩ := Option.bind_eq_some_iff.1 h
  cases h
  rw [slashes_chars hs rfl (isPlain_of_authority? ha)]
  have := slashes_withPath_le scheme (some a) rest (slashes_rootedPath_le (.ofScheme scheme))
  have := slashes_of_authority? ha
  omega

theorem slashes_of_fileWithHost? (hs : IsScheme scheme)
    (h : fileWithHost? scheme text = some i) : slashes i.chars ≤ slashes text + 3 := by
  rcases fileWithHost?_cases h with ⟨-, rfl⟩ | ⟨host, hhost, rfl, -⟩
  · -- a drive in the place of the host is part of the path
    rw [slashes_chars hs rfl (fun _ h => absurd h List.not_mem_nil)]
    have := slashes_withPath_le scheme (some .empty) text (slashes_follow_le .file)
    omega
  · rw [slashes_chars hs rfl (fun c hc => hhost c (by simpa [Authority.text] using hc))]
    have := slashes_withPath_le scheme (some ⟨[], host, none⟩)
      (text.dropWhile fun c => !(isSlash c || endsPath c)) (slashes_rootedPath_le .file)
    have := slashes_le_of_sublist
      (List.dropWhile_sublist (fun c => !(isSlash c || endsPath c)) (l := text))
    omega

end LinkedShapes.Iri
