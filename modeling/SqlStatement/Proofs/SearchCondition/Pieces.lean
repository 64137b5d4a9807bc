import SqlStatement.Condition

/-!
# The pieces of a text between its connectors

A text is cut at the words `and` or `or`, in any case, that stand outside all parentheses.  Words
are separated by blanks, and a connector takes one blank on either side with it, so every other
character belongs to a piece.

* `SearchText.depthAfter` counts open parentheses, and a `SearchText.Balanced` text closes all that
  it opens and no others.
* `SearchText.topWords` are the words that end outside all parentheses.
* `SearchText.pieces` cuts a text at one connector.
* `SearchText.pieces_of_spliced` is the main result: texts that are balanced and do not contain the
  connector are found again after they were joined by it.
-/

namespace SqlStatement.SearchText

/-- The characters that separate words. -/
def isBlank (c : Char) : Bool :=
  [' ', '\t', '\n', '\x0b', '\x0c', '\r'].contains c

/-- The number of open parentheses behind a character. -/
def depthBehind (depth : Nat) (c : Char) : Nat :=
  if c = '(' then depth + 1 else if c = ')' then depth - 1 else depth

/-- The number of open parentheses behind a text, if it closes none that is not open. -/
def depthAfter : Nat → List Char → Option Nat
  | depth, [] => some depth
  | depth, c :: text =>
    if c = ')' ∧ depth = 0 then none else depthAfter (depthBehind depth c) text

/-- A text that closes every parenthesis it opens and no other. -/
def Balanced (text : List Char) : Prop :=
  depthAfter 0 text = some 0

instance (text : List Char) : Decidable (Balanced text) :=
  inferInstanceAs (Decidable (_ = _))

/-- The words that end outside all parentheses, given the depth and the word so far. -/
def topWordsFrom (depth : Nat) (word : List Char) : List Char → List (List Char)
  | [] => if depth = 0 then [word] else []
  | c :: text =>
    if isBlank c then (if depth = 0 then [word] else []) ++ topWordsFrom depth [] text
    else topWordsFrom (depthBehind depth c) (word ++ [c]) text

/-- The words of a text that end outside all parentheses. -/
def topWords (text : List Char) : List (List Char) :=
  topWordsFrom 0 [] text

end SqlStatement.SearchText

namespace SqlStatement.Connector

/-- The letters of the word, in lower case. -/
def letters : Connector → List Char
  | and => ['a', 'n', 'd']
  | or => ['o', 'r']

/-- Whether a word is the connector, in any case. -/
def isSpelled (connector : Connector) (word : List Char) : Bool :=
  word.map Char.toLower == connector.letters

end SqlStatement.Connector

namespace SqlStatement.SearchText

/-- The pieces of a text between the given connector, given the depth, the piece before the current
word and that word so far. -/
def piecesFrom (connector : Connector) (depth : Nat) (piece word : List Char) :
    List Char → List (List Char)
  | [] =>
    if depth = 0 ∧ connector.isSpelled word then [piece.dropLast, []] else [piece ++ word]
  | c :: text =>
    if isBlank c then
      if depth = 0 ∧ connector.isSpelled word then
        piece.dropLast :: piecesFrom connector depth [] [] text
      else piecesFrom connector depth (piece ++ word ++ [c]) [] text
    else piecesFrom connector (depthBehind depth c) piece (word ++ [c]) text

/-- The pieces of a text between the given connector. -/
def pieces (connector : Connector) (text : List Char) : List (List Char) :=
  piecesFrom connector 0 [] [] text

/-! ### Depth -/

/-- Only parentheses change the depth. -/
theorem depthBehind_eq_self
    {c : Char}
    (depth : Nat)
    (hopen : c ≠ '(')
    (hclose : c ≠ ')') :
    depthBehind depth c = depth := by
  simp [depthBehind, hopen, hclose]

theorem depthBehind_of_isBlank
    {c : Char}
    (depth : Nat)
    (h : isBlank c) :
    depthBehind depth c = depth := by
  apply depthBehind_eq_self
  all_goals
    rintro rfl
    exact absurd h (by decide)

/-- A character that closes no outer parenthesis does the same inside more parentheses. -/
theorem depthBehind_add
    {depth : Nat}
    {c : Char}
    (outer : Nat)
    (h : ¬(c = ')' ∧ depth = 0)) :
    depthBehind (depth + outer) c = depthBehind depth c + outer := by
  unfold depthBehind
  grind

/-- Depth is counted from one part of a text to the next. -/
theorem depthAfter_append
    (depth : Nat)
    (first second : List Char) :
    depthAfter depth (first ++ second) =
      (depthAfter depth first).bind fun middle => depthAfter middle second := by
  induction first generalizing depth with
  | nil =>
      rfl
  | cons c first ih =>
      simp only [List.cons_append, depthAfter]
      split
      · rfl
      · exact ih _

/-- A text does to a greater depth what it does to a smaller one. -/
theorem depthAfter_add
    {depth final : Nat}
    {text : List Char}
    (outer : Nat)
    (h : depthAfter depth text = some final) :
    depthAfter (depth + outer) text = some (final + outer) := by
  induction text generalizing depth with
  | nil =>
      simp only [depthAfter, Option.some.injEq] at h ⊢
      omega
  | cons c text ih =>
      simp only [depthAfter] at h ⊢
      split at h
      · contradiction
      · rename_i hopen
        have hopen' : ¬(c = ')' ∧ depth + outer = 0) := fun hc =>
          hopen ⟨hc.1, by omega⟩
        rw [if_neg hopen', depthBehind_add outer hopen]
        exact ih h

theorem Balanced.append
    {first second : List Char}
    (hfirst : Balanced first)
    (hsecond : Balanced second) :
    Balanced (first ++ second) := by
  unfold Balanced at *
  rw [depthAfter_append, hfirst]
  exact hsecond

/-- Parentheses around a balanced text. -/
theorem Balanced.parenthesized
    {inner : List Char}
    (h : Balanced inner) :
    Balanced ('(' :: (inner ++ [')'])) := by
  have hinner : depthAfter 1 inner = some 1 := depthAfter_add 1 h
  have hopen :
      depthAfter 0 ('(' :: (inner ++ [')'])) = depthAfter 1 (inner ++ [')']) := by
    simp [depthAfter, depthBehind]
  rw [Balanced, hopen, depthAfter_append, hinner]
  rfl

/-- A text without parentheses is balanced. -/
theorem Balanced.of_no_parenthesis
    {text : List Char}
    (h : ∀ c ∈ text, c ≠ '(' ∧ c ≠ ')') :
    Balanced text := by
  unfold Balanced
  induction text with
  | nil =>
      rfl
  | cons c text ih =>
      obtain ⟨hopen, hclose⟩ := h c (by simp)
      simp only [depthAfter, hclose, false_and, if_false, depthBehind_eq_self 0 hopen hclose]
      exact ih fun c hc => h c (List.mem_cons_of_mem _ hc)

/-! ### Connectors as words -/

/-- Neither a blank nor a parenthesis is a letter of a connector. -/
theorem toLower_not_mem_letters
    {c : Char}
    (connector : Connector)
    (h : isBlank c ∨ c = '(' ∨ c = ')') :
    c.toLower ∉ connector.letters := by
  simp only [isBlank, List.contains_eq_mem, decide_eq_true_eq, List.mem_cons, List.not_mem_nil,
    or_false] at h
  rcases h with (rfl | rfl | rfl | rfl | rfl | rfl) | rfl | rfl <;>
    cases connector <;> decide

/-- A connector is written with letters alone. -/
theorem letter_of_isSpelled
    {connector : Connector}
    {word : List Char}
    {c : Char}
    (h : connector.isSpelled word)
    (hc : c ∈ word) :
    isBlank c = false ∧ c ≠ '(' ∧ c ≠ ')' := by
  have hword : word.map Char.toLower = connector.letters := by
    simpa [Connector.isSpelled] using h
  have hlower : c.toLower ∈ connector.letters := by
    rw [← hword]
    exact List.mem_map_of_mem hc
  have hletter : ¬(isBlank c ∨ c = '(' ∨ c = ')') := fun hother =>
    toLower_not_mem_letters connector hother hlower
  grind

/-- No word is both connectors. -/
theorem not_isSpelled_of_ne
    {first second : Connector}
    {word : List Char}
    (h : first.isSpelled word)
    (hne : first ≠ second) :
    second.isSpelled word = false := by
  have hword : word.map Char.toLower = first.letters := by
    simpa [Connector.isSpelled] using h
  cases first <;> cases second <;> simp_all [Connector.isSpelled, Connector.letters]

/-- A connector opens and closes no parenthesis. -/
theorem Balanced.of_isSpelled
    {connector : Connector}
    {word : List Char}
    (h : connector.isSpelled word) :
    Balanced word :=
  .of_no_parenthesis fun _ hc => (letter_of_isSpelled h hc).2

/-! ### Words outside all parentheses -/

/-- A text in which a connector is no word outside all parentheses. -/
def Lacks (connector : Connector) (text : List Char) : Prop :=
  ∀ word ∈ topWords text, connector.isSpelled word = false

instance (connector : Connector) (text : List Char) : Decidable (Lacks connector text) :=
  inferInstanceAs (Decidable (∀ _ ∈ _, _))

/-- The words of two texts that a blank separates. -/
theorem topWordsFrom_append
    {depth final : Nat}
    {first second : List Char}
    {blank : Char}
    (word : List Char)
    (hdepth : depthAfter depth first = some final)
    (hblank : isBlank blank) :
    topWordsFrom depth word (first ++ blank :: second) =
      topWordsFrom depth word first ++ topWordsFrom final [] second := by
  induction first generalizing depth word with
  | nil =>
      simp only [depthAfter, Option.some.injEq] at hdepth
      subst hdepth
      simp [topWordsFrom, hblank]
  | cons c first ih =>
      simp only [depthAfter] at hdepth
      split at hdepth
      · contradiction
      · simp only [List.cons_append, topWordsFrom]
        split
        · rename_i hc
          rw [depthBehind_of_isBlank depth hc] at hdepth
          rw [ih [] hdepth, List.append_assoc]
        · exact ih _ hdepth

/-- Two texts that lack a connector, with a blank between them. -/
theorem Lacks.append
    {connector : Connector}
    {first second : List Char}
    {blank : Char}
    (hfirst : Lacks connector first)
    (hsecond : Lacks connector second)
    (hbalanced : Balanced first)
    (hblank : isBlank blank) :
    Lacks connector (first ++ blank :: second) := by
  intro word hword
  rw [topWords, topWordsFrom_append [] hbalanced hblank, List.mem_append] at hword
  rcases hword with hword | hword
  · exact hfirst word hword
  · exact hsecond word hword

/-- The only word of a run of letters is the run. -/
theorem topWordsFrom_of_letters
    {run : List Char}
    (word : List Char)
    (h : ∀ c ∈ run, isBlank c = false ∧ c ≠ '(' ∧ c ≠ ')') :
    topWordsFrom 0 word run = [word ++ run] := by
  induction run generalizing word with
  | nil =>
      simp [topWordsFrom]
  | cons c run ih =>
      obtain ⟨hblank, hopen, hclose⟩ := h c (by simp)
      simp only [topWordsFrom, hblank, depthBehind_eq_self 0 hopen hclose]
      simpa using ih (word ++ [c]) fun c hc => h c (List.mem_cons_of_mem _ hc)

/-- A connector lacks the other one. -/
theorem Lacks.of_isSpelled
    {connector other : Connector}
    {word : List Char}
    (h : connector.isSpelled word)
    (hne : connector ≠ other) :
    Lacks other word := by
  intro found hfound
  rw [topWords, topWordsFrom_of_letters [] fun c hc => letter_of_isSpelled h hc] at hfound
  obtain rfl := List.mem_singleton.1 hfound
  exact not_isSpelled_of_ne h hne

/-- Inside parentheses no word ends outside all of them but the one of the last parenthesis. -/
theorem mem_of_mem_topWordsFrom_closed
    {depth : Nat}
    {inner word found : List Char}
    (hdepth : depthAfter depth inner = some 0)
    (hfound : found ∈ topWordsFrom (depth + 1) word (inner ++ [')'])) :
    ')' ∈ found := by
  induction inner generalizing depth word with
  | nil =>
      simp only [depthAfter, Option.some.injEq] at hdepth
      subst hdepth
      have hlast : topWordsFrom 1 word [')'] = [word ++ [')']] := by
        simp [topWordsFrom, isBlank, depthBehind]
      rw [Nat.zero_add, List.nil_append, hlast, List.mem_singleton] at hfound
      simp [hfound]
  | cons c inner ih =>
      simp only [depthAfter] at hdepth
      split at hdepth
      · contradiction
      · rename_i hopen
        simp only [List.cons_append, topWordsFrom] at hfound
        split at hfound
        · rename_i hc
          rw [depthBehind_of_isBlank depth hc] at hdepth
          exact ih hdepth (by simpa using hfound)
        · rw [depthBehind_add 1 hopen] at hfound
          exact ih hdepth hfound

/-- A parenthesized text lacks every connector. -/
theorem Lacks.parenthesized
    {inner : List Char}
    (connector : Connector)
    (h : Balanced inner) :
    Lacks connector ('(' :: (inner ++ [')'])) := by
  intro word hword
  have hopen :
      topWords ('(' :: (inner ++ [')'])) = topWordsFrom 1 ['('] (inner ++ [')']) := by
    simp [topWords, topWordsFrom, isBlank, depthBehind]
  rw [hopen] at hword
  have hclose : ')' ∈ word := mem_of_mem_topWordsFrom_closed h hword
  rw [← Bool.not_eq_true]
  intro hspelled
  exact (letter_of_isSpelled hspelled hclose).2.2 rfl

/-! ### Cutting -/

/-- A text that lacks the connector is one piece. -/
theorem piecesFrom_eq_singleton
    {connector : Connector}
    {depth : Nat}
    {word text : List Char}
    (piece : List Char)
    (h : ∀ found ∈ topWordsFrom depth word text, connector.isSpelled found = false) :
    piecesFrom connector depth piece word text = [piece ++ word ++ text] := by
  induction text generalizing depth piece word with
  | nil =>
      have hword : ¬(depth = 0 ∧ connector.isSpelled word) := by
        rintro ⟨rfl, hspelled⟩
        simp [topWordsFrom, hspelled] at h
      simp [piecesFrom, hword]
  | cons c text ih =>
      simp only [topWordsFrom] at h
      simp only [piecesFrom]
      split at h
      · rename_i hc
        have hword : ¬(depth = 0 ∧ connector.isSpelled word) := by
          rintro ⟨rfl, hspelled⟩
          simp [hspelled] at h
        have htext : ∀ found ∈ topWordsFrom depth [] text, connector.isSpelled found = false :=
          fun found hfound => h found (List.mem_append_right _ hfound)
        simp [hc, hword, ih _ htext]
      · rename_i hc
        simp [hc, ih _ h]

/-- A run of letters belongs to the current word. -/
theorem piecesFrom_letters_append
    {run : List Char}
    (connector : Connector)
    (depth : Nat)
    (piece word rest : List Char)
    (h : ∀ c ∈ run, isBlank c = false ∧ c ≠ '(' ∧ c ≠ ')') :
    piecesFrom connector depth piece word (run ++ rest) =
      piecesFrom connector depth piece (word ++ run) rest := by
  induction run generalizing word with
  | nil =>
      simp
  | cons c run ih =>
      obtain ⟨hblank, hopen, hclose⟩ := h c (by simp)
      simp only [List.cons_append, piecesFrom, hblank, depthBehind_eq_self depth hopen hclose]
      simpa using ih (word ++ [c]) fun c hc => h c (List.mem_cons_of_mem _ hc)

/-- The first connector after a balanced text that lacks it ends the first piece. -/
theorem piecesFrom_append_connector
    {connector : Connector}
    {depth : Nat}
    {word text keyword : List Char}
    (piece rest : List Char)
    (hdepth : depthAfter depth text = some 0)
    (h : ∀ found ∈ topWordsFrom depth word text, connector.isSpelled found = false)
    (hkeyword : connector.isSpelled keyword) :
    piecesFrom connector depth piece word (text ++ ' ' :: (keyword ++ ' ' :: rest)) =
      (piece ++ word ++ text) :: piecesFrom connector 0 [] [] rest := by
  induction text generalizing depth piece word with
  | nil =>
      simp only [depthAfter, Option.some.injEq] at hdepth
      subst hdepth
      have hword : connector.isSpelled word = false := h word (by simp [topWordsFrom])
      have hblank : isBlank ' ' = true := by decide
      -- The word of the text ends, the keyword is read, and the blank behind it makes the cut.
      simp only [List.nil_append, piecesFrom, hblank, if_true, hword, Bool.false_eq_true,
        and_false, if_false]
      rw [piecesFrom_letters_append connector 0 _ [] _ fun c hc =>
        letter_of_isSpelled hkeyword hc]
      simp [piecesFrom, hblank, hkeyword]
  | cons c text ih =>
      simp only [depthAfter] at hdepth
      split at hdepth
      · contradiction
      · simp only [topWordsFrom] at h
        simp only [List.cons_append, piecesFrom]
        split at h
        · rename_i hc
          rw [depthBehind_of_isBlank depth hc] at hdepth
          have hword : ¬(depth = 0 ∧ connector.isSpelled word) := by
            rintro ⟨rfl, hspelled⟩
            simp [hspelled] at h
          have htext : ∀ found ∈ topWordsFrom depth [] text, connector.isSpelled found = false :=
            fun found hfound => h found (List.mem_append_right _ hfound)
          simp [hc, hword, ih _ hdepth htext]
        · rename_i hc
          simp [hc, ih _ hdepth h]

/-- Texts with a connector between them, in any of its spellings. -/
inductive Spliced (connector : Connector) : List (List Char) → List Char → Prop where
  | nil : Spliced connector [] []
  | single (text : List Char) : Spliced connector [text] text
  | cons
      {keyword rest : List Char}
      {texts : List (List Char)}
      (text : List Char)
      (hkeyword : connector.isSpelled keyword)
      (hne : texts ≠ [])
      (hrest : Spliced connector texts rest) :
      Spliced connector (text :: texts) (text ++ ' ' :: (keyword ++ ' ' :: rest))

/-- Spliced texts are found again. -/
theorem pieces_of_spliced
    {connector : Connector}
    {texts : List (List Char)}
    {text : List Char}
    (h : Spliced connector texts text)
    (hne : texts ≠ [])
    (hbalanced : ∀ t ∈ texts, Balanced t)
    (hlacks : ∀ t ∈ texts, Lacks connector t) :
    pieces connector text = texts := by
  induction h with
  | nil =>
      contradiction
  | single text =>
      simpa [pieces] using piecesFrom_eq_singleton [] (hlacks text (by simp))
  | cons text hkeyword hrestne hrest ih =>
      have hrestpieces :=
        ih hrestne
          (fun t ht => hbalanced t (List.mem_cons_of_mem _ ht))
          (fun t ht => hlacks t (List.mem_cons_of_mem _ ht))
      rw [pieces, piecesFrom_append_connector [] _ (hbalanced text (by simp))
        (hlacks text (by simp)) hkeyword, ← pieces, hrestpieces]
      simp

/-- A parenthesized text belongs to the piece around it. -/
example :
    pieces .or "a = 1 Or (b = 2 or c = 3)".toList =
      ["a = 1".toList, "(b = 2 or c = 3)".toList] := by
  decide

namespace Spliced

variable {connector : Connector}

theorem eq_nil
    {text : List Char}
    (h : Spliced connector [] text) :
    text = [] := by
  cases h
  rfl

/-- Balanced texts stay balanced when they are spliced. -/
theorem balanced
    {texts : List (List Char)}
    {text : List Char}
    (h : Spliced connector texts text)
    (hbalanced : ∀ t ∈ texts, Balanced t) :
    Balanced text := by
  induction h with
  | nil =>
      rfl
  | single text =>
      exact hbalanced text (by simp)
  | cons text hkeyword hne hrest ih =>
      have hrestbalanced := ih fun t ht => hbalanced t (List.mem_cons_of_mem _ ht)
      have hblank : Balanced [' '] := rfl
      have htail := hblank.append ((Balanced.of_isSpelled hkeyword).append
        (hblank.append hrestbalanced))
      exact (hbalanced text (by simp)).append htail

/-- Texts that lack the other connector still lack it when they are spliced. -/
theorem lacks
    {other : Connector}
    {texts : List (List Char)}
    {text : List Char}
    (h : Spliced connector texts text)
    (hother : connector ≠ other)
    (hne : texts ≠ [])
    (hbalanced : ∀ t ∈ texts, Balanced t)
    (hlacks : ∀ t ∈ texts, Lacks other t) :
    Lacks other text := by
  induction h with
  | nil =>
      contradiction
  | single text =>
      exact hlacks text (by simp)
  | cons text hkeyword hrestne hrest ih =>
      have hrestlacks :=
        ih hrestne
          (fun t ht => hbalanced t (List.mem_cons_of_mem _ ht))
          (fun t ht => hlacks t (List.mem_cons_of_mem _ ht))
      have hblank : isBlank ' ' := by decide
      have htail :=
        (Lacks.of_isSpelled hkeyword hother).append hrestlacks (.of_isSpelled hkeyword) hblank
      exact (hlacks text (by simp)).append htail (hbalanced text (by simp)) hblank

/-- Two splices with the connector between them. -/
theorem append
    {first second : List (List Char)}
    {left keyword right : List Char}
    (hfirst : Spliced connector first left)
    (hsecond : Spliced connector second right)
    (hfirstne : first ≠ [])
    (hsecondne : second ≠ [])
    (hkeyword : connector.isSpelled keyword) :
    Spliced connector (first ++ second) (left ++ ' ' :: (keyword ++ ' ' :: right)) := by
  induction hfirst with
  | nil =>
      contradiction
  | single text =>
      exact .cons text hkeyword hsecondne hsecond
  | cons text hown hne hrest ih =>
      have htail := ih hne
      simpa using Spliced.cons text hown (by simp [hne]) htail

end Spliced

end SqlStatement.SearchText
