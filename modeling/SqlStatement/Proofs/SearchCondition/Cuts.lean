import SqlStatement.Proofs.SearchCondition.Pieces

/-!
# Texts cut at a separator

A text is cut at a character that stands outside all parentheses.  Nothing is lost, since the text
is its cuts with the separator between them, and a balanced text is cut as if it stood alone.

* `SearchText.cutAt` gives the cuts and `SearchText.intercalate_cutAt` puts them together again.
* `SearchText.cutAt_append` and `SearchText.cutAt_intercalate` cut texts that were put together.
* `SearchText.upTo` is a text up to the first of certain words, and `SearchText.upTo_append` finds
  the part again that `SearchText.Avoids` these words before another that `SearchText.Opens` with
  one.
* `SearchText.IsRow.eq_of_join_eq` is the main result: texts in a row are told by all of them
  together.
-/

namespace SqlStatement.SearchText

/-- The cuts of a text, given the depth and the cut so far. -/
def cutFrom (separator : Char) (depth : Nat) (cut : List Char) : List Char → List (List Char)
  | [] => [cut]
  | c :: text =>
    if c = separator ∧ depth = 0 then cut :: cutFrom separator 0 [] text
    else cutFrom separator (depthBehind depth c) (cut ++ [c]) text

/-- The texts between the separators that stand outside all parentheses. -/
def cutAt (separator : Char) (text : String) : List String :=
  (cutFrom separator 0 [] text.toList).map String.ofList

section

variable {separator : Char}

/-! ### Cuts tell the text -/

theorem cutFrom_ne_nil
    (depth : Nat)
    (cut text : List Char) :
    cutFrom separator depth cut text ≠ [] := by
  induction text generalizing depth cut with
  | nil =>
      simp [cutFrom]
  | cons c text ih =>
      rw [cutFrom]
      split
      · exact List.cons_ne_nil _ _
      · exact ih _ _

theorem intercalate_cutFrom
    (depth : Nat)
    (cut text : List Char) :
    [separator].intercalate (cutFrom separator depth cut text) = cut ++ text := by
  induction text generalizing depth cut with
  | nil =>
      simp [cutFrom]
  | cons c text ih =>
      rw [cutFrom]
      split
      · rename_i hcut
        rw [List.intercalate_cons_of_ne_nil (cutFrom_ne_nil 0 [] text), ih, hcut.1]
        simp
      · rw [ih]
        simp

theorem intercalate_cutAt (text : String) :
    (String.singleton separator).intercalate (cutAt separator text) = text := by
  rw [← String.toList_inj, String.toList_intercalate, cutAt, List.map_map]
  have hlists : String.toList ∘ String.ofList = id := funext fun _ => String.toList_ofList
  rw [hlists, List.map_id, String.toList_singleton, intercalate_cutFrom, List.nil_append]

/-! ### Cuts of texts that were put together -/

theorem cutFrom_append
    {depth : Nat}
    {first second : List Char}
    (cut : List Char)
    (hseparator : separator ≠ '(')
    (hdepth : depthAfter depth first = some 0) :
    cutFrom separator depth cut (first ++ separator :: second) =
      cutFrom separator depth cut first ++ cutFrom separator 0 [] second := by
  induction first generalizing depth cut with
  | nil =>
      obtain rfl : depth = 0 := by simpa [depthAfter] using hdepth
      simp [cutFrom]
  | cons c first ih =>
      rw [depthAfter] at hdepth
      split at hdepth
      · cases hdepth
      · rename_i hopen
        rw [List.cons_append, cutFrom, cutFrom]
        split
        · rename_i hcut
          obtain ⟨rfl, rfl⟩ := hcut
          have hclose : c ≠ ')' := fun hc => hopen ⟨hc, rfl⟩
          rw [depthBehind_eq_self 0 hseparator hclose] at hdepth
          rw [ih [] hdepth, List.cons_append]
        · exact ih _ hdepth

/-- A text is cut behind a balanced one as if it stood alone. -/
theorem cutAt_append
    {first : String}
    (second : String)
    (hseparator : separator ≠ '(')
    (hfirst : Balanced first.toList) :
    cutAt separator (first ++ String.singleton separator ++ second) =
      cutAt separator first ++ cutAt separator second := by
  rw [cutAt, String.toList_append, String.toList_append, String.toList_singleton,
    List.append_assoc, List.singleton_append, cutFrom_append [] hseparator hfirst, List.map_append]
  rfl

theorem cutAt_intercalate
    {texts : List String}
    (hseparator : separator ≠ '(')
    (hne : texts ≠ [])
    (htexts : ∀ t ∈ texts, Balanced t.toList) :
    cutAt separator ((String.singleton separator).intercalate texts) =
      texts.flatMap (cutAt separator) := by
  induction texts with
  | nil =>
      exact absurd rfl hne
  | cons t texts ih =>
      cases texts with
      | nil =>
          simp
      | cons u texts =>
          rw [String.intercalate_cons_cons, cutAt_append _ hseparator (htexts t (by simp)),
            ih (List.cons_ne_nil _ _) fun v hv => htexts v (List.mem_cons_of_mem _ hv)]
          rfl

/-- A text in parentheses adds to the cut so far, whatever it holds. -/
theorem cutFrom_inside
    {depth final : Nat}
    {inner : List Char}
    (cut rest : List Char)
    (h : depthAfter depth inner = some final) :
    cutFrom separator (depth + 1) cut (inner ++ rest) =
      cutFrom separator (final + 1) (cut ++ inner) rest := by
  induction inner generalizing depth cut with
  | nil =>
      obtain rfl : depth = final := by simpa [depthAfter] using h
      simp
  | cons c inner ih =>
      rw [depthAfter] at h
      split at h
      · cases h
      · rename_i hopen
        rw [List.cons_append, cutFrom, if_neg (by simp), depthBehind_add 1 hopen, ih _ h]
        simp

theorem cutAt_parenthesized
    {inner : String}
    (hseparator : separator ≠ '(')
    (h : Balanced inner.toList) :
    cutAt separator ("(" ++ inner ++ ")") = ["(" ++ inner ++ ")"] := by
  have hlists : ("(" ++ inner ++ ")").toList = '(' :: (inner.toList ++ [')']) := by
    simp
  have hopen : ¬('(' = separator ∧ 0 = 0) := fun hc => hseparator hc.1.symm
  rw [cutAt, hlists, cutFrom, if_neg hopen]
  change (cutFrom separator (0 + 1) ['('] (inner.toList ++ [')'])).map _ = _
  rw [cutFrom_inside _ _ h, cutFrom, if_neg (by simp), cutFrom, List.map_singleton,
    ← String.ofList_toList (s := "(" ++ inner ++ ")"), hlists]
  simp

theorem cutFrom_prefix
    (depth : Nat)
    (start cut text : List Char) :
    cutFrom separator depth (start ++ cut) text =
      (cutFrom separator depth cut text).modifyHead (start ++ ·) := by
  induction text generalizing depth cut with
  | nil =>
      rfl
  | cons c text ih =>
      rw [cutFrom, cutFrom]
      split
      · rfl
      · rw [List.append_assoc]
        exact ih _ _

/-- A text without separator and without parentheses belongs to the first cut. -/
theorem cutFrom_append_of_not_mem
    {word : List Char}
    (cut text : List Char)
    (hword : ∀ c ∈ word, c ≠ separator ∧ c ≠ '(' ∧ c ≠ ')') :
    cutFrom separator 0 cut (word ++ text) = cutFrom separator 0 (cut ++ word) text := by
  induction word generalizing cut with
  | nil =>
      simp
  | cons c word ih =>
      obtain ⟨hc, hopen, hclose⟩ := hword c List.mem_cons_self
      have hcut : ¬(c = separator ∧ 0 = 0) := fun h => hc h.1
      rw [List.cons_append, cutFrom, if_neg hcut, depthBehind_eq_self 0 hopen hclose,
        ih _ fun d hd => hword d (List.mem_cons_of_mem _ hd)]
      simp

theorem cutAt_append_of_not_mem
    {word : String}
    (text : String)
    (hword : ∀ c ∈ word.toList, c ≠ separator ∧ c ≠ '(' ∧ c ≠ ')') :
    cutAt separator (word ++ text) = (cutAt separator text).modifyHead (word ++ ·) := by
  rw [cutAt, cutAt, String.toList_append, cutFrom_append_of_not_mem _ _ hword, List.nil_append,
    ← List.append_nil word.toList, cutFrom_prefix]
  cases cutFrom separator 0 [] text.toList with
  | nil =>
      rfl
  | cons cut rest =>
      simp

theorem cutAt_of_not_mem
    {word : String}
    (hword : ∀ c ∈ word.toList, c ≠ separator ∧ c ≠ '(' ∧ c ≠ ')') :
    cutAt separator word = [word] := by
  rw [← String.append_empty (s := word), cutAt_append_of_not_mem "" hword]
  rfl

end

/-! ### Words -/

/-- A balanced text without blanks outside its parentheses. -/
structure IsOneCut (text : String) : Prop where
  balanced : Balanced text.toList
  cutAt_eq : cutAt ' ' text = [text]

/-- A text without blanks, commas and parentheses. -/
structure IsWord (text : String) : Prop where
  ne_empty : text ≠ ""
  ne_special : ∀ c ∈ text.toList, c ≠ ' ' ∧ c ≠ ',' ∧ c ≠ '(' ∧ c ≠ ')'

instance (text : String) : Decidable (IsWord text) :=
  -- Named, since a search may find an instance that tries all characters there are.
  have : Decidable (∀ c ∈ text.toList, c ≠ ' ' ∧ c ≠ ',' ∧ c ≠ '(' ∧ c ≠ ')') :=
    List.decidableBAll _ _
  decidable_of_iff (text ≠ "" ∧ ∀ c ∈ text.toList, c ≠ ' ' ∧ c ≠ ',' ∧ c ≠ '(' ∧ c ≠ ')')
    ⟨fun h => ⟨h.1, h.2⟩, fun h => ⟨h.ne_empty, h.ne_special⟩⟩

theorem IsOneCut.of_not_mem
    {text : String}
    (h : ∀ c ∈ text.toList, c ≠ ' ' ∧ c ≠ '(' ∧ c ≠ ')') :
    IsOneCut text where
  balanced := .of_no_parenthesis fun c hc => (h c hc).2
  cutAt_eq := cutAt_of_not_mem h

theorem IsOneCut.parenthesized
    {text : String}
    (h : Balanced text.toList) :
    IsOneCut ("(" ++ text ++ ")") where
  balanced := by
    rw [String.toList_append, String.toList_append]
    exact h.parenthesized
  cutAt_eq := cutAt_parenthesized (by decide) h

namespace IsWord

variable {word : String}

theorem isOneCut (h : IsWord word) : IsOneCut word :=
  .of_not_mem fun c hc => ⟨(h.ne_special c hc).1, (h.ne_special c hc).2.2⟩

theorem cutAt_comma (h : IsWord word) : cutAt ',' word = [word] :=
  cutAt_of_not_mem fun c hc => (h.ne_special c hc).2

end IsWord

/-- No word is a text in parentheses. -/
theorem parenthesized_not_mem
    {words : List String}
    (hwords : ∀ word ∈ words, IsWord word)
    (text : String) :
    "(" ++ text ++ ")" ∉ words := by
  intro hmem
  have hopen := (hwords _ hmem).ne_special '(' (by simp)
  exact hopen.2.2.1 rfl

theorem balanced_intercalate
    {separator : String}
    {texts : List String}
    (hseparator : Balanced separator.toList)
    (htexts : ∀ t ∈ texts, Balanced t.toList) :
    Balanced (separator.intercalate texts).toList := by
  induction texts with
  | nil =>
      rfl
  | cons t texts ih =>
      have ht := htexts t List.mem_cons_self
      cases texts with
      | nil =>
          simpa using ht
      | cons u texts =>
          rw [String.intercalate_cons_cons, String.toList_append, String.toList_append]
          exact (ht.append hseparator).append
            (ih fun v hv => htexts v (List.mem_cons_of_mem _ hv))

theorem flatMap_cutAt_eq_self
    {separator : Char}
    {texts : List String}
    (htexts : ∀ t ∈ texts, cutAt separator t = [t]) :
    texts.flatMap (cutAt separator) = texts := by
  induction texts with
  | nil =>
      rfl
  | cons t texts ih =>
      rw [List.flatMap_cons, htexts t List.mem_cons_self,
        ih fun u hu => htexts u (List.mem_cons_of_mem _ hu), List.singleton_append]

/-- Texts of one cut are found again between blanks. -/
theorem cutAt_intercalate_blank
    {texts : List String}
    (hne : texts ≠ [])
    (htexts : ∀ t ∈ texts, IsOneCut t) :
    cutAt ' ' (" ".intercalate texts) = texts := by
  have hcuts : cutAt ' ' (" ".intercalate texts) = texts.flatMap (cutAt ' ') :=
    cutAt_intercalate (by decide) hne fun t ht => (htexts t ht).balanced
  exact hcuts.trans (flatMap_cutAt_eq_self fun t ht => (htexts t ht).cutAt_eq)

/-- A blank in parentheses does not separate. -/
example : cutAt ' ' "id in (select id) limit 1" = ["id", "in", "(select id)", "limit", "1"] := by
  decide

/-- Words are found again between commas. -/
theorem cutAt_intercalate_comma
    {texts : List String}
    (hne : texts ≠ [])
    (htexts : ∀ t ∈ texts, IsWord t) :
    cutAt ',' (",".intercalate texts) = texts := by
  have hcuts : cutAt ',' (",".intercalate texts) = texts.flatMap (cutAt ',') :=
    cutAt_intercalate (by decide) hne fun t ht => (htexts t ht).isOneCut.balanced
  exact hcuts.trans (flatMap_cutAt_eq_self fun t ht => (htexts t ht).cutAt_comma)

/-! ### Texts up to a word -/

/-- A balanced text in which none of the words stands between blanks outside all parentheses. -/
structure Avoids (words : List String) (text : String) : Prop where
  balanced : Balanced text.toList
  not_mem : ∀ cut ∈ cutAt ' ' text, cut ∉ words

/-- A text that is empty or starts, behind a blank, with one of the words. -/
def Opens (words : List String) (text : String) : Prop :=
  text = "" ∨ ∃ head ∈ words, ∃ rest, text = " " ++ head ++ " " ++ rest

/-- The text before the first of the words. -/
def upTo (words : List String) (text : String) : String :=
  " ".intercalate ((cutAt ' ' text).takeWhile fun cut => !words.contains cut)

namespace Avoids

variable {words : List String} {text : String}

theorem of_isOneCut (htext : IsOneCut text) (h : text ∉ words) : Avoids words text where
  balanced := htext.balanced
  not_mem := by
    rw [htext.cutAt_eq]
    simpa using h

theorem of_isWord (hword : IsWord text) (h : text ∉ words) : Avoids words text :=
  .of_isOneCut hword.isOneCut h

theorem empty (h : "" ∉ words) : Avoids words "" where
  balanced := by decide
  not_mem := by
    change ∀ cut ∈ [""], cut ∉ words
    simpa using h

theorem mono
    {others : List String}
    (h : Avoids words text)
    (hothers : others ⊆ words) :
    Avoids others text where
  balanced := h.balanced
  not_mem := fun cut hcut hmem => h.not_mem cut hcut (hothers hmem)

theorem blank
    {first second : String}
    (hfirst : Avoids words first)
    (hsecond : Avoids words second) :
    Avoids words (first ++ " " ++ second) where
  balanced := by
    rw [String.toList_append, String.toList_append]
    exact (hfirst.balanced.append (by decide)).append hsecond.balanced
  not_mem := by
    intro cut hcut
    rw [show (" " : String) = String.singleton ' ' from rfl,
      cutAt_append second (by decide) hfirst.balanced, List.mem_append] at hcut
    exact hcut.elim (hfirst.not_mem cut) (hsecond.not_mem cut)

theorem intercalate
    {texts : List String}
    (hne : texts ≠ [])
    (htexts : ∀ t ∈ texts, IsOneCut t)
    (h : ∀ t ∈ texts, t ∉ words) :
    Avoids words (" ".intercalate texts) where
  balanced := balanced_intercalate (by decide) fun t ht => (htexts t ht).balanced
  not_mem := by rwa [cutAt_intercalate_blank hne htexts]

/-- A clause avoids the words if the ones that it starts with and the text behind them do. -/
theorem clause
    (start : List String)
    (hempty : "" ∉ words)
    (hstart : ∀ word ∈ start, IsWord word ∧ word ∉ words)
    (h : Avoids words text) :
    Avoids words (" " ++ " ".intercalate start ++ " " ++ text) := by
  cases start with
  | nil =>
      exact ((Avoids.empty hempty).blank (.empty hempty)).blank h
  | cons head rest =>
      have hlist : Avoids words (" ".intercalate (head :: rest)) :=
        .intercalate (List.cons_ne_nil _ _) (fun word hword => (hstart word hword).1.isOneCut)
          fun word hword => (hstart word hword).2
      have hblank : Avoids words (" " ++ " ".intercalate (head :: rest)) := by
        simpa using (Avoids.empty hempty).blank hlist
      exact hblank.blank h

theorem parenthesized
    (hwords : ∀ word ∈ words, IsWord word)
    (h : Balanced text.toList) :
    Avoids words ("(" ++ text ++ ")") :=
  .of_isOneCut (.parenthesized h) (parenthesized_not_mem hwords text)

/-- A word with a comma behind it is none of the words, and with a text behind the comma neither. -/
theorem comma
    {start : String}
    (hwords : ∀ word ∈ words, IsWord word)
    (hstart : IsWord start)
    (h : Avoids words text) :
    Avoids words (start ++ "," ++ text) where
  balanced := by
    rw [String.toList_append, String.toList_append]
    exact (hstart.isOneCut.balanced.append (by decide)).append h.balanced
  not_mem := by
    have hprefix : ∀ c ∈ (start ++ ",").toList, c ≠ ' ' ∧ c ≠ '(' ∧ c ≠ ')' := by
      intro c hc
      rw [String.toList_append, List.mem_append] at hc
      rcases hc with hc | hc
      · exact ⟨(hstart.ne_special c hc).1, (hstart.ne_special c hc).2.2⟩
      · obtain rfl : c = ',' := by simpa using hc
        decide
    intro cut hcut hmem
    rw [cutAt_append_of_not_mem text hprefix] at hcut
    cases hcuts : cutAt ' ' text with
    | nil =>
        simp [hcuts] at hcut
    | cons head rest =>
        rw [hcuts, List.modifyHead_cons, List.mem_cons] at hcut
        rcases hcut with rfl | hcut
        · have hcomma := (hwords _ hmem).ne_special ',' (by simp)
          exact hcomma.2.1 rfl
        · exact h.not_mem cut (hcuts ▸ List.mem_cons_of_mem _ hcut) hmem

end Avoids

namespace Opens

variable {words : List String} {text : String}

theorem append
    {others : List String}
    {rest : String}
    (h : Opens words text)
    (hrest : Opens others rest)
    (hothers : others ⊆ words) :
    Opens words (text ++ rest) := by
  rcases h with rfl | ⟨head, hhead, behind, rfl⟩
  · rw [String.empty_append]
    rcases hrest with rfl | ⟨head, hhead, behind, rfl⟩
    · exact Or.inl rfl
    · exact Or.inr ⟨head, hothers hhead, behind, rfl⟩
  · exact Or.inr ⟨head, hhead, behind ++ rest, by simp only [String.append_assoc]⟩

end Opens

/-- A text that avoids words is found again before a text that opens with one. -/
theorem upTo_append
    {words : List String}
    {first second : String}
    (hwords : ∀ word ∈ words, IsWord word)
    (hfirst : Avoids words first)
    (hsecond : Opens words second) :
    upTo words (first ++ second) = first := by
  have hall : ∀ cut ∈ cutAt ' ' first, (!words.contains cut) = true := by
    intro cut hcut
    simpa using hfirst.not_mem cut hcut
  have hcuts :
      (cutAt ' ' (first ++ second)).takeWhile (fun cut => !words.contains cut) =
        cutAt ' ' first := by
    rcases hsecond with rfl | ⟨head, hhead, rest, rfl⟩
    · rw [String.append_empty, ← List.append_nil (cutAt ' ' first),
        List.takeWhile_append_of_pos hall]
      rfl
    · have hblank : (" " : String) = String.singleton ' ' := rfl
      have htexts :
          first ++ (" " ++ head ++ " " ++ rest) =
            first ++ String.singleton ' ' ++ (head ++ String.singleton ' ' ++ rest) := by
        simp only [hblank, String.append_assoc]
      rw [htexts, cutAt_append _ (by decide) hfirst.balanced,
        cutAt_append _ (by decide) (hwords head hhead).isOneCut.balanced,
        (hwords head hhead).isOneCut.cutAt_eq, List.takeWhile_append_of_pos hall]
      simp [hhead]
  rw [upTo, hcuts]
  exact intercalate_cutAt first

/-! ### Texts in a row -/

/-- Texts of which each avoids certain words, while the texts behind it open with one of them. -/
inductive IsRow : List (List String) → List String → Prop
  | last (text : String) : IsRow [] [text]
  | cons {words : List String} {more : List (List String)} {text : String} {texts : List String} :
      Avoids words text → Opens words (String.join texts) → IsRow more texts →
        IsRow (words :: more) (text :: texts)

theorem IsRow.pair
    {words : List String}
    {first last : String}
    (hfirst : Avoids words first)
    (hlast : Opens words last) :
    IsRow [words] [first, last] :=
  .cons hfirst (by simpa using hlast) (.last last)

/-- What may open later may also open here, where the next text may be empty. -/
theorem IsRow.cons_of_opens
    {words others : List String}
    {more : List (List String)}
    {text next : String}
    {texts : List String}
    (htext : Avoids words text)
    (hnext : Opens words next)
    (hothers : others ⊆ words)
    (h : IsRow (others :: more) (next :: texts)) :
    IsRow (words :: others :: more) (text :: next :: texts) := by
  refine .cons htext ?_ h
  cases h with
  | cons _ hopens _ =>
      rw [String.join_cons]
      exact hnext.append hopens hothers

theorem IsRow.balanced
    {words : List (List String)}
    {texts : List String}
    (h : IsRow words texts)
    (hlast : ∀ last ∈ texts.getLast?, Balanced last.toList) :
    Balanced (String.join texts).toList := by
  induction h with
  | last text =>
      simpa using hlast text rfl
  | @cons _ _ text texts havoids _ hrow ih =>
      have hne : texts ≠ [] := by
        cases hrow <;> exact List.cons_ne_nil _ _
      rw [String.join_cons, String.toList_append]
      refine havoids.balanced.append (ih fun last hmem => hlast last ?_)
      rw [List.getLast?_cons_of_ne_nil hne]
      exact hmem

/-- Texts in a row are told by all of them together. -/
theorem IsRow.eq_of_join_eq
    {words : List (List String)}
    {texts others : List String}
    (hwords : ∀ list ∈ words, ∀ word ∈ list, IsWord word)
    (htexts : IsRow words texts)
    (hothers : IsRow words others)
    (h : String.join texts = String.join others) :
    texts = others := by
  induction htexts generalizing others with
  | last text =>
      cases hothers with
      | last other =>
          simpa using h
  | @cons list more text texts havoids hopens htexts ih =>
      cases hothers with
      | @cons _ _ other others havoids' hopens' hothers =>
          rw [String.join_cons, String.join_cons] at h
          have hlist := hwords list List.mem_cons_self
          obtain rfl : text = other := by
            rw [← upTo_append hlist havoids hopens, h, upTo_append hlist havoids' hopens']
          rw [ih (fun l hl => hwords l (List.mem_cons_of_mem _ hl)) hothers
            ((String.append_right_inj _).1 h)]

end SqlStatement.SearchText
