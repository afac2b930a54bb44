import LinkedShapes.Proofs.Text.Lowercase
import LinkedShapes.Text.Words

/-!
# Searching for words

The words of a text are its longest stretches of alphanumeric characters, and only the words of the
keywords count in a search. A word of the text is found, and so is what a word starts with if only
the start has to match. The exception is a start whose capital sigma is final without the rest of
the word: its lower-case form has a letter that the word has not.

* `mem_runs_iff`, `mem_words_iff`: words are the longest stretches.
* `like_eq_true_iff`: a search succeeds if each word of the keywords finds a word of the text.
* `like_start_iff`: which starts of words are found.
* `like_finds_words`: what is found of a text, and what a search depends on.
-/

namespace LinkedShapes.Text

variable {p : Char → Bool} {c : Char} {read front run start rest word : List Char}
variable {text keywords keywords' : String} {stemming : Bool}

/-! ## Longest stretches -/

/--
Characters with the property `p` that stand together in the text, and as many as there are: none
stands before them or behind them.
-/
def LongestRun (p : Char → Bool) (text run : List Char) : Prop :=
  run ≠ [] ∧ (∀ c ∈ run, p c = true) ∧ ∃ before behind, text = before ++ (run ++ behind) ∧
    (∀ c ∈ before.getLast?, p c = false) ∧ ∀ c ∈ behind.head?, p c = false

theorem leadingRun_of_forall (h : ∀ c ∈ read, p c = true) : leadingRun p read = (read, []) := by
  induction read with
  | nil => rfl
  | cons c read ih =>
    obtain ⟨hc, hread⟩ := List.forall_mem_cons.1 h
    rw [leadingRun, ih hread]
    exact if_pos hc

/-- The run at the head of a text does not depend on what follows a character that ends runs. -/
theorem leadingRun_append_cons (hc : p c = false) (text later : List Char) :
    leadingRun p (text ++ c :: later) =
      ((leadingRun p text).1, (leadingRun p text).2 ++ runs p later) := by
  induction text with
  | nil =>
    rw [List.nil_append, leadingRun]
    exact if_neg (by rw [hc]; exact Bool.false_ne_true)
  | cons d text ih =>
    rw [List.cons_append, leadingRun, leadingRun, ih]
    dsimp only
    split
    · rfl
    · split <;> rfl

/-- A character that ends runs parts a text in two. -/
theorem runs_append_cons (hc : p c = false) (text later : List Char) :
    runs p (text ++ c :: later) = runs p text ++ runs p later := by
  simp only [runs, leadingRun_append_cons hc]
  split <;> rfl

theorem mem_runs_of_forall (h : ∀ c ∈ read, p c = true) :
    run ∈ runs p read ↔ read ≠ [] ∧ run = read := by
  rw [runs, leadingRun_of_forall h]
  cases read with
  | nil => exact iff_of_false List.not_mem_nil fun hboth => hboth.1 rfl
  | cons c read => simp

theorem LongestRun.append_cons (hc : p c = false) {later : List Char}
    (h : LongestRun p later run) : LongestRun p (front ++ c :: later) run := by
  obtain ⟨hne, hall, before, behind, rfl, hbefore, hbehind⟩ := h
  refine ⟨hne, hall, front ++ c :: before, behind, by simp, ?_, hbehind⟩
  intro d hd
  rw [List.getLast?_append, List.getLast?_cons, Option.some_or] at hd
  cases hlast : before.getLast? with
  | none =>
    rw [hlast] at hd
    cases hd
    exact hc
  | some e =>
    rw [hlast] at hd
    cases hd
    exact hbefore e hlast

/-- What is read of a text so far has all its characters in the run that is being read. -/
theorem longestRun_of_mem_runs {text : List Char} (hread : ∀ c ∈ read, p c = true)
    (h : run ∈ runs p (read ++ text)) : LongestRun p (read ++ text) run := by
  induction text generalizing read with
  | nil =>
    rw [List.append_nil] at h ⊢
    obtain ⟨hne, rfl⟩ := (mem_runs_of_forall hread).1 h
    exact ⟨hne, hread, [], [], (List.append_nil _).symm, nofun, nofun⟩
  | cons c text ih =>
    cases hc : p c with
    | true =>
      rw [List.append_cons] at h ⊢
      refine ih ?_ h
      exact List.forall_mem_append.2 ⟨hread, List.forall_mem_singleton.2 hc⟩
    | false =>
      rw [runs_append_cons hc, List.mem_append] at h
      -- it ends what was read, and the induction goes on behind it with nothing read
      rcases h with h | h
      · obtain ⟨hne, rfl⟩ := (mem_runs_of_forall hread).1 h
        refine ⟨hne, hread, [], c :: text, rfl, nofun, ?_⟩
        rintro d ⟨⟩
        exact hc
      · exact (ih (List.forall_mem_nil _) h).append_cons hc

theorem LongestRun.mem_runs {text : List Char} (h : LongestRun p text run) : run ∈ runs p text := by
  obtain ⟨hne, hall, before, behind, rfl, hbefore, hbehind⟩ := h
  have hself : run ∈ runs p run := (mem_runs_of_forall hall).2 ⟨hne, rfl⟩
  have hfirst : run ∈ runs p (run ++ behind) := by
    cases behind with
    | nil => rwa [List.append_nil]
    | cons c behind =>
      rw [runs_append_cons (hbehind c rfl)]
      exact List.mem_append_left _ hself
  rcases List.eq_nil_or_concat before with rfl | ⟨front, c, rfl⟩
  · exact hfirst
  · rw [List.concat_eq_append] at hbefore ⊢
    rw [List.append_assoc, List.singleton_append,
      runs_append_cons (hbefore c List.getLast?_concat)]
    exact List.mem_append_right _ hfirst

/-- The runs of a text are its longest stretches. -/
theorem mem_runs_iff {text : List Char} : run ∈ runs p text ↔ LongestRun p text run :=
  ⟨longestRun_of_mem_runs (List.forall_mem_nil _), LongestRun.mem_runs⟩

/-! ## Words -/

/-- A word of a text, whatever stands between the words. -/
def WordOf (text : String) (word : List Char) : Prop := LongestRun isAlphanumeric text.toList word

theorem mem_words_iff : word ∈ words text ↔ WordOf text word := mem_runs_iff

/-- Alphanumeric characters on their own are one word. -/
theorem wordOf_ofList_iff (hne : start ≠ []) (h : ∀ c ∈ start, isAlphanumeric c = true) :
    WordOf (String.ofList start) word ↔ word = start := by
  rw [← mem_words_iff, words, String.toList_ofList, mem_runs_of_forall h, and_iff_right hne]

/-! ## Searching -/

theorem finds_stem_iff {keyword : List Char} : finds true keyword word = true ↔ keyword <+: word :=
  List.isPrefixOf_iff_prefix

theorem finds_exact_iff {keyword : List Char} : finds false keyword word = true ↔ keyword = word :=
  beq_iff_eq

/-- Each word of the keywords has to find a word of the text. -/
theorem like_eq_true_iff : like text keywords stemming = true ↔
    ∀ keyword, WordOf keywords keyword →
      ∃ word, WordOf text word ∧ finds stemming (lowercase keyword) (lowercase word) = true := by
  simp only [like, lowerWords, List.all_map, List.any_map, List.all_eq_true, List.any_eq_true,
    Function.comp_apply, mem_words_iff]

/-- A single keyword has to find a word of the text. -/
theorem like_ofList_iff (hne : start ≠ []) (h : ∀ c ∈ start, isAlphanumeric c = true) :
    like text (String.ofList start) stemming = true ↔
      ∃ word, WordOf text word ∧ finds stemming (lowercase start) (lowercase word) = true := by
  simp only [like_eq_true_iff, wordOf_ofList_iff hne h, forall_eq]

theorem like_word (h : WordOf text word) : like text (String.ofList word) false = true :=
  (like_ofList_iff h.1 h.2.1).2 ⟨word, h, finds_exact_iff.2 rfl⟩

/-- What a word starts with is found in the word unless a final sigma turns, and may be found in
another word all the same. -/
theorem like_start_iff (hne : start ≠ []) (h : WordOf text (start ++ rest)) :
    like text (String.ofList start) true = true ↔
      ¬FinalSigmaTurns [] start rest ∨
        ∃ word, WordOf text word ∧ word ≠ start ++ rest ∧ lowercase start <+: lowercase word := by
  have hall : ∀ c ∈ start, isAlphanumeric c = true := (List.forall_mem_append.1 h.2.1).1
  simp only [like_ofList_iff hne hall, finds_stem_iff]
  constructor
  · rintro ⟨word, hword, hstart⟩
    by_cases heq : word = start ++ rest
    · rw [heq] at hstart
      exact Or.inl (lowercase_isPrefix_iff.1 hstart)
    · exact Or.inr ⟨word, hword, heq, hstart⟩
  · rintro (hturns | ⟨word, hword, -, hstart⟩)
    · exact ⟨_, h, lowercase_isPrefix_iff.2 hturns⟩
    · exact ⟨word, hword, hstart⟩

/-- Whole words that are found start words. -/
theorem like_stemming (h : like text keywords false = true) : like text keywords true = true := by
  rw [like_eq_true_iff] at h ⊢
  intro keyword hkeyword
  obtain ⟨word, hword, hfinds⟩ := h keyword hkeyword
  have heq : lowercase keyword = lowercase word := finds_exact_iff.1 hfinds
  exact ⟨word, hword, finds_stem_iff.2 (heq ▸ List.prefix_rfl)⟩

/-- Nothing but the words of the keywords counts. -/
theorem like_congr (h : ∀ word, WordOf keywords word ↔ WordOf keywords' word) :
    like text keywords stemming = like text keywords' stemming := by
  rw [Bool.eq_iff_iff, like_eq_true_iff, like_eq_true_iff]
  exact forall_congr' fun word => imp_congr_left (h word)

/--
Every word of a text is found as a whole, and what a word starts with is found where only the start
has to match, except that a start whose final sigma turns may only be found in another word. Whole
words that are found start words. The order of the keywords, how often they come and what stands
between them make no difference: those with the same words are answered alike.
-/
theorem like_finds_words (text : String) :
    (∀ word, WordOf text word → like text (String.ofList word) false = true) ∧
      (∀ start rest, start ≠ [] → WordOf text (start ++ rest) →
        (like text (String.ofList start) true = true ↔
          ¬FinalSigmaTurns [] start rest ∨
            ∃ word, WordOf text word ∧ word ≠ start ++ rest ∧
              lowercase start <+: lowercase word)) ∧
      (∀ keywords, like text keywords false = true → like text keywords true = true) ∧
      ∀ keywords keywords' stemming, (∀ word, WordOf keywords word ↔ WordOf keywords' word) →
        like text keywords stemming = like text keywords' stemming :=
  ⟨fun _ => like_word, fun _ _ => like_start_iff, fun _ => like_stemming,
    fun _ _ _ => like_congr⟩

/-! ## A pavement that is not found by its road -/

/-- A text of two words, the second of which is a pavement. -/
def newPavement : String := "Νέο ΟΔΟΣΤΡΩΜΑ"

theorem words_newPavement : words newPavement = ["Νέο".toList, "ΟΔΟΣΤΡΩΜΑ".toList] := by
  decide +kernel

theorem wordOf_newPavement : WordOf newPavement "ΟΔΟΣΤΡΩΜΑ".toList := by
  rw [← mem_words_iff, words_newPavement]
  exact List.mem_cons_of_mem _ List.mem_cons_self

theorem wordOf_newPavement_append (h : start ++ rest = "ΟΔΟΣΤΡΩΜΑ".toList) :
    WordOf newPavement (start ++ rest) :=
  h ▸ wordOf_newPavement

/-- The word for a road ends in a final sigma, and the word for its pavement goes on behind it. -/
theorem finalSigmaTurns_road : FinalSigmaTurns [] "ΟΔΟΣ".toList "ΤΡΩΜΑ".toList :=
  ⟨"ΟΔΟ".toList, [], by decide +kernel, by decide +kernel, nofun, by decide +kernel⟩

/-- The pavement is found as a word and by what comes before its sigma, but not by the road. -/
theorem like_finds_words_newPavement :
    WordOf newPavement "ΟΔΟΣΤΡΩΜΑ".toList ∧ like newPavement "ΟΔΟΣΤΡΩΜΑ" false = true ∧
      like newPavement "ΟΔΟ" true = true ∧ like newPavement "ΟΔΟΣ" true = false ∧
      like newPavement "ΟΔΟΣΤΡΩΜΑ Νέο" true = like newPavement "Νέο, ΟΔΟΣΤΡΩΜΑ, Νέο" true := by
  obtain ⟨hword, hstart, -, hcongr⟩ := like_finds_words newPavement
  refine ⟨wordOf_newPavement, ?_, ?_, ?_, ?_⟩
  · have hlike := hword _ wordOf_newPavement
    rwa [String.ofList_toList] at hlike
  · have hiff := hstart "ΟΔΟ".toList "ΣΤΡΩΜΑ".toList (by decide +kernel)
      (wordOf_newPavement_append (by decide +kernel))
    rw [String.ofList_toList] at hiff
    exact hiff.2 (Or.inl fun hturns => absurd hturns.mem_start (by decide +kernel))
  · have hiff := hstart "ΟΔΟΣ".toList "ΤΡΩΜΑ".toList (by decide +kernel)
      (wordOf_newPavement_append (by decide +kernel))
    rw [String.ofList_toList] at hiff
    rw [← Bool.not_eq_true]
    intro hlike
    -- the other word of the text has nothing to do with roads
    rcases hiff.1 hlike with hturns | ⟨word, hmem, hne, hprefix⟩
    · exact hturns finalSigmaTurns_road
    · rw [← mem_words_iff, words_newPavement] at hmem
      simp only [List.mem_cons, List.not_mem_nil, or_false] at hmem
      rcases hmem with rfl | rfl
      · exact absurd hprefix (by decide +kernel)
      · exact absurd hne (by decide +kernel)
  · refine hcongr _ _ _ fun word => ?_
    have hwords : words "ΟΔΟΣΤΡΩΜΑ Νέο" = ["ΟΔΟΣΤΡΩΜΑ".toList, "Νέο".toList] := by decide +kernel
    have hwords' : words "Νέο, ΟΔΟΣΤΡΩΜΑ, Νέο" =
        ["Νέο".toList, "ΟΔΟΣΤΡΩΜΑ".toList, "Νέο".toList] := by decide +kernel
    rw [← mem_words_iff, ← mem_words_iff, hwords, hwords']
    simp only [List.mem_cons, List.not_mem_nil, or_false]
    grind

/-- The road starts a word of the text, and a search for what words start with does not find it. -/
theorem like_misses_start : ¬∀ start rest, start ≠ [] → WordOf newPavement (start ++ rest) →
    like newPavement (String.ofList start) true = true := by
  intro h
  have hlike := h "ΟΔΟΣ".toList "ΤΡΩΜΑ".toList (by decide +kernel)
    (wordOf_newPavement_append (by decide +kernel))
  rw [String.ofList_toList] at hlike
  exact absurd hlike (by decide +kernel)

end LinkedShapes.Text
