import Mathlib.Data.List.Nodup
import LinkedShapes.Json.Parser
import LinkedShapes.Json.Printer

/-!
# Objects of strings read back

The compact text of an object whose members are strings with distinct names is read as that object.

* `readString_flatMap`: a string is read back behind its opening quote.
* `Spells`: a text is cut into tokens, whatever the fuel, if there is enough of it.
* `foldlM_members`: the tokens of members lead from an open object to its end.
* `parse?_text`: all of it together.
-/

namespace LinkedShapes.Json

open Text

variable {c d : Char} {text rest : List Char} {token : Token} {tokens : List Token}
variable {pairs : List (String × String)} {members before : List (String × Json)}

/-! ## Strings -/

/-- Puts a character before the string that has been read. -/
def withChar (c : Char) (read : List Char × List Char) : List Char × List Char :=
  (c :: read.1, read.2)

theorem hex4?_control : ∀ n < 0x20,
    hex4? '0' '0' (Nat.digitChar (n / 16)) (Nat.digitChar (n % 16)) = some n := by decide

theorem readString_escaped (hd : escaped? d = some c) (rest : List Char) :
    readString ('\\' :: d :: rest) = (readString rest).map (withChar c) := by
  rw [readString]
  · rw [hd]
    cases readString rest <;> rfl
  · rintro _ _ _ _ _ rfl _
    cases hd

theorem readString_control (hc : c.toNat < 0x20) (rest : List Char) :
    readString ('\\' :: 'u' :: '0' :: '0' :: Nat.digitChar (c.toNat / 16) ::
      Nat.digitChar (c.toNat % 16) :: rest) = (readString rest).map (withChar c) := by
  rw [readString, hex4?_control _ hc]
  show (if _ then _ else _) = _
  rw [if_pos (Or.inl (by omega)), Char.ofNat_toNat]
  cases readString rest <;> rfl

theorem readString_plain (hquote : c ≠ '\x22') (hslash : c ≠ '\\') (hc : 0x20 ≤ c.toNat)
    (rest : List Char) : readString (c :: rest) = (readString rest).map (withChar c) := by
  rw [readString]
  · rw [if_neg (not_or.2 ⟨Nat.not_lt.2 hc, hslash⟩)]
    cases readString rest <;> rfl
  · exact hquote
  · exact fun _ _ _ _ _ h _ => hslash h
  · exact fun _ _ h _ => hslash h

theorem readString_escapeChar (c : Char) (rest : List Char) :
    readString (escapeChar c ++ rest) = (readString rest).map (withChar c) := by
  unfold escapeChar
  iterate 7 (split; · next hc => subst hc; exact readString_escaped rfl rest)
  split
  · next hc => exact readString_control hc rest
  · next hquote hslash _ _ _ _ _ hc =>
    exact readString_plain hquote hslash (Nat.not_lt.1 hc) rest

theorem readString_flatMap (text rest : List Char) :
    readString (text.flatMap escapeChar ++ '\x22' :: rest) = some (text, rest) := by
  induction text with
  | nil => rw [List.flatMap_nil, List.nil_append, readString]
  | cons c text ih =>
    rw [List.flatMap_cons, List.append_assoc, readString_escapeChar, ih]
    rfl

theorem readToken_stringText (s : String) (rest : List Char) :
    readToken ((stringText s).toList ++ rest) = some (.literal (.string s), rest) := by
  rw [stringText, String.toList_ofList, List.cons_append, List.cons_append, List.append_assoc,
    List.singleton_append, readToken, readString_flatMap]
  simp

/-! ## Tokens -/

/-- The text is cut into the tokens. -/
def Spells (text : List Char) (tokens : List Token) : Prop :=
  ∀ fuel, text.length ≤ fuel → tokensWithin fuel text = some tokens

theorem Spells.nil : Spells [] [] := by
  intro fuel _
  unfold tokensWithin
  rfl

theorem Spells.cons (hc : isBlank c = false) (htoken : readToken (c :: text) = some (token, rest))
    (hrest : rest.length ≤ text.length) (h : Spells rest tokens) :
    Spells (c :: text) (token :: tokens) := by
  intro fuel hfuel
  obtain _ | fuel := fuel
  · cases hfuel
  · have hdrop : (c :: text).dropWhile isBlank = c :: text := by
      rw [List.dropWhile_cons, hc]
      rfl
    unfold tokensWithin
    rw [hdrop]
    dsimp only
    rw [htoken]
    show (tokensWithin fuel rest >>= fun tokens => some (token :: tokens)) = _
    rw [h fuel (Nat.le_trans hrest (Nat.le_of_succ_le_succ hfuel))]
    rfl

theorem Spells.string (s : String) (h : Spells rest tokens) :
    Spells ((stringText s).toList ++ rest) (.literal (.string s) :: tokens) := by
  have htoken := readToken_stringText s rest
  have htext : (stringText s).toList ++ rest =
      '\x22' :: (s.toList.flatMap escapeChar ++ '\x22' :: rest) := by
    rw [stringText, String.toList_ofList, List.cons_append, List.cons_append, List.append_assoc,
      List.singleton_append]
  rw [htext] at htoken ⊢
  refine .cons rfl htoken ?_ h
  rw [List.length_append, List.length_cons]
  omega

/-! ## Members -/

/-- The members that have the strings for values. -/
def stringMembers (pairs : List (String × String)) : List (String × Json) :=
  pairs.map fun (name, value) => (name, .string value)

/-- The tokens of an object behind its opening brace. -/
def memberTokens : List (String × String) → List Token
  | [] => [.closeObject]
  | (name, value) :: pairs =>
    .literal (.string name) :: .colon :: .literal (.string value) ::
      if pairs.isEmpty then [.closeObject] else .comma :: memberTokens pairs

theorem Spells.member (name value : String) (h : Spells rest tokens) :
    Spells ((stringText name ++ ":" ++ stringText value).toList ++ rest)
      (.literal (.string name) :: .colon :: .literal (.string value) :: tokens) := by
  have hcolon : Spells (':' :: ((stringText value).toList ++ rest))
    (.colon :: .literal (.string value) :: tokens) := .cons rfl rfl (Nat.le_refl _) (h.string value)
  have htext : ":".toList = [':'] := rfl
  rw [String.toList_append, String.toList_append, List.append_assoc, List.append_assoc, htext,
    List.singleton_append]
  exact hcolon.string name

theorem memberTexts_cons (name value : String) (pairs : List (String × String)) :
    memberTexts (stringMembers ((name, value) :: pairs)) =
      (stringText name ++ ":" ++ stringText value) :: memberTexts (stringMembers pairs) := by
  rw [stringMembers, List.map_cons, memberTexts, Json.text]
  rfl

theorem spells_members (pairs : List (String × String)) :
    Spells ((",".intercalate (memberTexts (stringMembers pairs))).toList ++ ['\x7d'])
      (memberTokens pairs) := by
  have hclose : Spells ['\x7d'] [.closeObject] := .cons rfl rfl (Nat.le_refl _) .nil
  induction pairs with
  | nil => exact hclose
  | cons pair pairs ih =>
    obtain ⟨name, value⟩ := pair
    rw [memberTexts_cons]
    cases pairs with
    | nil =>
      rw [stringMembers, List.map_nil, memberTexts, String.intercalate_singleton]
      exact hclose.member name value
    | cons next pairs =>
      have hcomma : Spells (',' :: _) (.comma :: memberTokens (next :: pairs)) :=
        .cons rfl rfl (Nat.le_refl _) ih
      rw [memberTexts_cons next.1 next.2] at hcomma ⊢
      rw [String.intercalate_cons_cons, String.toList_append, String.toList_append,
        List.append_assoc, List.append_assoc]
      exact hcomma.member name value

/-! ## The reader -/

/-- The tokens of members lead from an open object to its end. -/
theorem foldlM_members (mayClose : Bool) (hclose : pairs = [] → mayClose = true)
    (stack : List Frame) :
    (memberTokens pairs).foldlM Reader.step ⟨.object [] "" :: stack, .name before mayClose⟩ =
      some ⟨stack, .separator (.object (before.reverse ++ stringMembers pairs))⟩ := by
  induction pairs generalizing before mayClose with
  | nil =>
    rw [hclose rfl]
    show some (Reader.mk stack (.separator (.object before.reverse))) = _
    rw [stringMembers, List.map_nil, List.append_nil]
  | cons pair pairs ih =>
    obtain ⟨name, value⟩ := pair
    have hafter : ∀ tokens : List Token,
        (Token.literal (.string name) :: .colon :: .literal (.string value) :: tokens).foldlM
          Reader.step ⟨.object [] "" :: stack, .name before mayClose⟩ =
        tokens.foldlM Reader.step ⟨.object before name :: stack, .separator (.string value)⟩ := by
      cases mayClose <;> exact fun _ => rfl
    rw [memberTokens, hafter]
    cases pairs with
    | nil =>
      show some (Reader.mk stack
        (.separator (.object ((name, .string value) :: before).reverse))) = _
      rw [List.reverse_cons]
      rfl
    | cons next pairs =>
      show (memberTokens (next :: pairs)).foldlM Reader.step
        ⟨.object [] "" :: stack, .name ((name, .string value) :: before) false⟩ = _
      rw [ih false nofun, List.reverse_cons, List.append_assoc]
      rfl

/-! ## Texts -/

theorem put_of_notMem {name : String} {value : Json} (h : name ∉ before.map (·.1)) :
    put name value before = before ++ [(name, value)] := by
  induction before with
  | nil => rfl
  | cons member before ih =>
    rw [List.map_cons, List.mem_cons, not_or] at h
    rw [put, if_neg (Ne.symm h.1), ih h.2]
    rfl

theorem mergedMembers_stringMembers
    (h : (before.map (·.1) ++ pairs.map (·.1)).Nodup) :
    mergedMembers before (stringMembers pairs) = before ++ stringMembers pairs := by
  induction pairs generalizing before with
  | nil => exact (List.append_nil before).symm
  | cons pair pairs ih =>
    obtain ⟨name, value⟩ := pair
    have hname : name ∉ before.map (·.1) := fun hmem =>
      (List.nodup_append.1 h).2.2 name hmem name List.mem_cons_self rfl
    show mergedMembers (put name (.string value) before) (stringMembers pairs) = _
    rw [put_of_notMem hname, ih, List.append_assoc]
    · rfl
    · simpa using h

theorem head?_text_object (members : List (String × Json)) :
    (Json.text (.object members)).toList.head? = some '\x7b' := by
  rw [Json.text, String.toList_append, String.toList_append, List.append_assoc]
  rfl

/-- The compact text of an object of strings with distinct names is read as that object. -/
theorem parse?_text (h : (pairs.map (·.1)).Nodup) :
    parse? (Json.text (.object (stringMembers pairs))) = some (.object (stringMembers pairs)) := by
  have hspells := (Spells.cons (c := '\x7b') rfl rfl (Nat.le_refl _) (spells_members pairs))
  have htokens : tokens? (Json.text (.object (stringMembers pairs))).toList =
      some (.openObject :: memberTokens pairs) := by
    rw [Json.text, String.toList_append, String.toList_append, List.append_assoc]
    exact hspells _ (Nat.le_refl _)
  have hread : (Token.openObject :: memberTokens pairs).foldlM Reader.step Reader.start =
      some ⟨[], .separator (.object (stringMembers pairs))⟩ :=
    foldlM_members true (fun _ => rfl) []
  have hmembers : parseMembers? (Json.text (.object (stringMembers pairs))) =
      some (.object (stringMembers pairs)) := by
    rw [parseMembers?, htokens]
    show (_ >>= Reader.finish?) = _
    rw [hread]
    rfl
  have hmerged : mergedMembers [] (stringMembers pairs) = stringMembers pairs :=
    mergedMembers_stringMembers (by simpa using h)
  rw [parse?, hmembers, Option.map_some, merged, hmerged]

end LinkedShapes.Json
