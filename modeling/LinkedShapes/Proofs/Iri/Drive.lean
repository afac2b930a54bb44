import Mathlib.Data.List.TakeWhile
import LinkedShapes.Proofs.Iri.Parts

/-!
# Drives

Two dots never lead out of a drive, so that a path which is given with a drive in front starts on
that drive once it has been walked.

* `getLast?_walk`: the drive that a walk starts from is kept.
* `startsOnDrive_follow`, `startsWithDrive_of_startsOnDrive`: a path starts on a drive exactly if
  its text starts with one.
-/

namespace LinkedShapes.Iri

open Text

variable {rest text given g : List Char} {kind : Kind} {before segments : List (List Char)}
variable {segment d : List Char}

theorem head?_split (separates : Char → Bool) (text : List Char) :
    (split separates text).head? = some (text.takeWhile (!separates ·)) := by
  induction text with
  | nil => rfl
  | cons c text ih =>
    rw [split]
    split
    · next hc => rw [List.takeWhile_cons_of_neg (by simp [hc]), List.head?_cons]
    · next hc =>
      rw [List.takeWhile_cons_of_pos (by simpa using hc)]
      split
      · next hnil => exact absurd hnil (split_ne_nil _ _)
      · next piece pieces hsplit =>
        rw [hsplit, List.head?_cons, Option.some.injEq] at ih
        rw [List.head?_cons, ih]

theorem isDrive_iff : Path.isDrive segment = true ↔
    ∃ letter mark, segment = [letter, mark] ∧ isAsciiAlpha letter = true ∧
      (mark = ':' ∨ mark = '|') := by
  constructor
  · intro h
    unfold Path.isDrive at h
    split at h
    · next letter mark =>
      simp only [Bool.and_eq_true, Bool.or_eq_true, beq_iff_eq] at h
      exact ⟨letter, mark, rfl, h.1, h.2⟩
    · cases h
  · rintro ⟨letter, mark, rfl, hletter, rfl | rfl⟩ <;> simp [Path.isDrive, hletter]

/-! ## Walking -/

theorem getLast?_step (hb : before.getLast? = some d) (hd : Path.isDrive d = true) :
    (Path.step kind before segment).getLast? = some d := by
  obtain ⟨first, before, rfl⟩ := List.exists_cons_of_ne_nil (l := before) (by
    rintro rfl
    cases hb)
  unfold Path.step
  split
  · rw [Path.back]
    split
    · exact hb
    · next hfirst =>
      -- what is left is not the drive
      cases before with
      | nil =>
        obtain rfl : first = d := Option.some.inj hb
        exact absurd hd hfirst
      | cons second before => rwa [List.getLast?_cons_cons] at hb
  · split
    · exact hb
    · rw [if_neg (by simp), List.getLast?_cons_cons]
      exact hb

/-- The drive that a walk starts from is kept. -/
theorem getLast?_walk {given : List (List Char)} (hb : before.getLast? = some d)
    (hd : Path.isDrive d = true) : (Path.walk kind before given).getLast? = some d := by
  induction given generalizing before with
  | nil => exact hb
  | cons segment given ih =>
    have hstep : (Path.step kind before segment).getLast? = some d := getLast?_step hb hd
    cases given with
    | nil =>
      rw [Path.walk]
      split
      · rw [List.getLast?_cons, hstep]
        rfl
      · exact hstep
    | cons next given =>
      rw [Path.walk]
      · exact ih hstep
      · exact List.cons_ne_nil _ _

/-! ## Paths on drives -/

/-- What stands behind a drive is the end of its segment. -/
def EndsSegment (behind : List Char) : Prop :=
  behind = [] ∨ ∃ c others, behind = c :: others ∧ (isSlash c || endsPath c) = true

theorem startsWithDrive_iff : Path.startsWithDrive rest = true ↔
    ∃ letter mark behind, rest = letter :: mark :: behind ∧
      Path.isDrive [letter, mark] = true ∧ EndsSegment behind := by
  -- the two spellings of what may stand behind a drive
  have hend : ∀ c : Char, "/\\?#".toList.contains c = (isSlash c || endsPath c) := by
    intro c
    rw [Bool.eq_iff_iff]
    simp [isSlash, endsPath, or_assoc]
  unfold Path.startsWithDrive
  rw [Bool.and_eq_true]
  constructor
  · rintro ⟨hdrive, hbehind⟩
    obtain ⟨letter, mark, htake, -⟩ := isDrive_iff.1 hdrive
    refine ⟨letter, mark, rest.drop 2, ?_, htake ▸ hdrive, ?_⟩
    · rw [← List.take_append_drop 2 rest, htake]
      rfl
    · cases hdrop : rest.drop 2 with
      | nil => exact .inl rfl
      | cons c others =>
        rw [hdrop] at hbehind
        exact .inr ⟨c, others, rfl, (hend c).symm.trans hbehind⟩
  · rintro ⟨letter, mark, behind, rfl, hdrive, rfl | ⟨c, others, rfl, hc⟩⟩
    · exact ⟨hdrive, rfl⟩
    · exact ⟨hdrive, (hend c).trans hc⟩

theorem not_isEscaped_of_isAsciiAlpha {c : Char} (h : isAsciiAlpha c = true) :
    Path.isEscaped c = false := by
  have hlist : " \"#<>?\x60\x7b\x7d".toList.contains c = false := by
    rw [Bool.eq_false_iff, Ne, List.contains_iff_mem]
    intro hc
    have hall : " \"#<>?\x60\x7b\x7d".toList.all (!isAsciiAlpha ·) = true := rfl
    have hnot := List.all_eq_true.1 hall c hc
    rw [h] at hnot
    cases hnot
  unfold Path.isEscaped Host.isControl
  simp only [isAsciiAlpha, Bool.or_eq_true, Bool.and_eq_true, decide_eq_true_eq,
    Char.reduceToNat] at h
  rw [hlist, Bool.or_false, Bool.or_eq_false_iff, decide_eq_false_iff_not, decide_eq_false_iff_not]
  omega

theorem isPlain_of_isDrive {letter mark : Char} (h : Path.isDrive [letter, mark] = true) :
    ∀ c ∈ [letter, mark], isPlain c = true ∧ Path.isEscaped c = false := by
  obtain ⟨letter, mark, heq, hletter, hmark⟩ := isDrive_iff.1 h
  cases heq
  intro c hc
  rcases List.mem_cons.1 hc with rfl | hc
  · exact ⟨isPlain_of_isAsciiAlphanumeric (by simp [isAsciiAlphanumeric, hletter]),
      not_isEscaped_of_isAsciiAlpha hletter⟩
  · obtain rfl := List.mem_singleton.1 hc
    rcases hmark with rfl | rfl <;> decide

theorem startsOnDrive_ofSegments {others : List (List Char)} (hd : Path.isPlainDrive d = true) :
    startsOnDrive (Path.ofSegments (d :: others)) = true := by
  obtain ⟨hdrive, -⟩ := Bool.and_eq_true_iff.1 hd
  obtain ⟨letter, mark, rfl, -⟩ := isDrive_iff.1 hdrive
  have hin : ∀ c ∈ [letter, mark], (!(c == '/')) = true := fun c hc => by
    rw [Bool.not_eq_true', beq_eq_false_iff_ne]
    exact (isPlain_iff.1 (isPlain_of_isDrive hdrive c hc).1).2.1
  have hfirst : ([letter, mark] ++ Path.ofSegments others).takeWhile (fun c => !(c == '/')) =
      [letter, mark] := by
    cases others with
    | nil =>
      rw [Path.ofSegments, List.flatMap_nil, List.append_nil, List.takeWhile_eq_self_iff.2 hin]
    | cons other others => exact (takeWhile_slash hin rfl).1
  unfold startsOnDrive Path.segments
  rw [Path.ofSegments, List.flatMap_cons, if_neg (by simp), List.cons_append, List.tail_cons,
    Text.splitAt, head?_split]
  show Path.isPlainDrive
    (([letter, mark] ++ Path.ofSegments others).takeWhile fun c => !(c == '/')) = true
  rw [hfirst]
  exact hd

/-- A walk whose first segment is a drive starts from the drive. -/
theorem walk_of_isDrive {letter mark : Char} (h : Path.isDrive [letter, mark] = true)
    (others : List (List Char)) :
    (Path.walk .file [] ([letter, mark] :: others)).getLast? = some [letter, ':'] := by
  obtain ⟨_, _, heq, hletter, hmark⟩ := isDrive_iff.1 h
  cases heq
  -- a letter is no dot, not even an encoded one
  have hdot : Path.afterDot? [letter, mark] = none := by
    unfold Path.afterDot?
    split
    · next heq =>
      cases heq
      cases hletter
    all_goals
      next heq =>
      first | cases heq | rfl
  have hback : Path.isBack [letter, mark] = false := by rw [Path.isBack, hdot]; rfl
  have hhere : Path.isHere [letter, mark] = false := by rw [Path.isHere, hdot]; rfl
  have hstep : Path.step .file [] [letter, mark] = [[letter, ':']] := by
    simp [Path.step, hback, hhere, h]
  cases others with
  | nil =>
    rw [Path.walk, hback, hhere, if_neg (by decide), hstep]
    rfl
  | cons other others =>
    rw [Path.walk, hstep]
    · exact getLast?_walk rfl (isDrive_iff.2 ⟨letter, ':', rfl, hletter, .inl rfl⟩)
    · exact List.cons_ne_nil _ _

theorem split_of_startsWithDrive {letter mark : Char} {behind : List Char}
    (h : Path.isDrive [letter, mark] = true) (hb : EndsSegment behind) :
    ∃ others, split (Path.isSeparator .file)
      ((letter :: mark :: behind).takeWhile (!endsPath ·)) = [letter, mark] :: others := by
  have hchars := isPlain_of_isDrive h
  have hend : ∀ c ∈ [letter, mark], (!endsPath c) = true := fun c hc => by
    rw [(not_isSlash_of_isPlain (hchars c hc).1).2]
    rfl
  have hin : ∀ c ∈ [letter, mark], (!Path.isSeparator .file c) = true := fun c hc => by
    have hnone : (Path.isSeparator .file c || endsPath c) = false :=
      not_separates_of_isPlain (hchars c hc).1
    rw [(Bool.or_eq_false_iff.1 hnone).1]
    rfl
  have hnone : (behind.takeWhile (!endsPath ·)).takeWhile (!Path.isSeparator .file ·) = [] := by
    rcases hb with rfl | ⟨c, cs, rfl, hc⟩
    · rfl
    · have hslash : Path.isSeparator .file c = isSlash c := rfl
      rw [List.takeWhile_takeWhile, List.takeWhile_cons_of_neg]
      simp only [hslash, Bool.not_eq_true', decide_eq_true_eq, ← Bool.or_eq_false_iff, hc]
      decide
  have hhead := head?_split (Path.isSeparator .file)
    (([letter, mark] ++ behind).takeWhile (!endsPath ·))
  rw [List.takeWhile_append_of_pos hend, List.takeWhile_append_of_pos hin, hnone] at hhead
  obtain ⟨others, heq⟩ := List.head?_eq_some_iff.1 hhead
  refine ⟨others, Eq.trans ?_ heq⟩
  rw [← List.takeWhile_append_of_pos hend]
  rfl

/-- A walk that leaves a drive farthest behind leads to a path that starts on the drive. -/
theorem startsOnDrive_of_walk (hd : Path.isPlainDrive d = true)
    (h : (Path.walk .file before ((split (Path.isSeparator .file) text).map
      (Percent.encode Path.isEscaped))).getLast? = some d) :
    startsOnDrive (Path.follow .file before text) = true := by
  rw [← List.head?_reverse] at h
  obtain ⟨walked, hwalk⟩ := List.head?_eq_some_iff.1 h
  unfold Path.follow
  simp only [hwalk, if_true]
  rw [Path.dropEmpty]
  · exact startsOnDrive_ofSegments hd
  · rintro _ _ heq
    obtain ⟨rfl, -⟩ := List.cons.inj heq
    cases hd

/-- From a drive, one gets to a path on the drive. -/
theorem startsOnDrive_follow_of_isPlainDrive (hd : Path.isPlainDrive d = true)
    (text : List Char) : startsOnDrive (Path.follow .file [d] text) = true :=
  startsOnDrive_of_walk hd (getLast?_walk rfl (Bool.and_eq_true_iff.1 hd).1)

/-- A text with a drive in front is walked to a path that starts on the drive. -/
theorem startsOnDrive_follow (h : Path.startsWithDrive rest = true) :
    startsOnDrive (Path.follow .file [] (rest.takeWhile (!endsPath ·))) = true := by
  obtain ⟨letter, mark, behind, rfl, hdrive, hbehind⟩ := startsWithDrive_iff.1 h
  obtain ⟨others, hsplit⟩ := split_of_startsWithDrive hdrive hbehind
  have hencode : Percent.encode Path.isEscaped [letter, mark] = [letter, mark] := by
    have hchars := isPlain_of_isDrive hdrive
    simp [Percent.encode, (hchars letter (by simp)).2, (hchars mark (by simp)).2]
  obtain ⟨_, _, heq, hletter, -⟩ := isDrive_iff.1 hdrive
  cases heq
  refine startsOnDrive_of_walk (d := [letter, ':'])
    (by simp [Path.isPlainDrive, Path.isDrive, hletter]) ?_
  rw [hsplit, List.map_cons, hencode]
  exact walk_of_isDrive hdrive _

theorem endsSegment_marked (query fragment : Option (List Char)) :
    EndsSegment (marked '?' query ++ marked '#' fragment) := by
  cases query with
  | some query => exact .inr ⟨'?', _, rfl, rfl⟩
  | none =>
    cases fragment with
    | some fragment => exact .inr ⟨'#', _, rfl, rfl⟩
    | none => exact .inl rfl

/-- A path that starts on a drive has a drive in front of its text. -/
theorem startsWithDrive_of_startsOnDrive {path behind : List Char}
    (h : startsOnDrive path = true) (he : '/' :: rest = path ++ behind)
    (hb : EndsSegment behind) : Path.startsWithDrive rest = true := by
  unfold startsOnDrive Path.segments at h
  cases path with
  | nil => cases h
  | cons c path =>
    rw [if_neg (by simp), List.tail_cons, Text.splitAt, head?_split, Option.any_some] at h
    obtain ⟨hdrive, -⟩ := Bool.and_eq_true_iff.1 h
    obtain ⟨letter, mark, hfirst, -⟩ := isDrive_iff.1 hdrive
    rw [hfirst] at hdrive
    have hpath := List.takeWhile_append_dropWhile (p := fun c => !(c == '/')) (l := path)
    rw [hfirst] at hpath
    refine startsWithDrive_iff.2
      ⟨letter, mark, path.dropWhile (fun c => !(c == '/')) ++ behind, ?_, hdrive, ?_⟩
    · rw [(List.cons.inj he).2]
      exact congrArg (· ++ behind) hpath.symm
    · have hslash := List.head?_dropWhile_not (fun c => !(c == '/')) path
      cases hdrop : path.dropWhile (fun c => !(c == '/')) with
      | nil => exact hb
      | cons d others =>
        rw [hdrop] at hslash
        obtain rfl : d = '/' := by simpa using hslash
        exact .inr ⟨'/', others ++ behind, rfl, rfl⟩

end LinkedShapes.Iri
