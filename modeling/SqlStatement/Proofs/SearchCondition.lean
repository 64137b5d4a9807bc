import SqlStatement.Proofs.SearchCondition.Pieces
import SqlStatement.Proofs.Fallible

/-!
# Search conditions

What a `where` clause says.  A search condition offers alternatives, an alternative is a conjunction
of operands, and an operand is a comparison or a search condition in parentheses.  So `and` binds
tighter than `or`.

* `SearchCondition.ofText?` reads a text: it is cut at every `or` outside parentheses, then each
  alternative at every `and`, and an operand that begins with a parenthesis must end with the
  matching one.  A quote is a character like any other.
* `SearchCondition.Holds` is the truth of a search condition where the truth of comparisons is given
  through their texts.
* `SearchText.read?_of_spliced` is the main result: a text put together from operands that can be
  read is read as what it was put together from.
-/

namespace SqlStatement

/-- What stands between two connectors. -/
inductive Operand where
  | comparison (text : String)
  /-- A search condition in parentheses. -/
  | group (alternatives : List (List Operand))

/-- Alternatives, each of which is a conjunction of operands. -/
abbrev SearchCondition :=
  List (List Operand)

namespace SearchText

/-- How an operand is written. -/
inductive OperandText where
  | comparison
  | parenthesized (inner : List Char)

/-- The way in which an operand is written, if there is one at all. -/
def operandText? (text : List Char) : Option OperandText :=
  match text.dropWhile isBlank with
  | [] => none
  | '(' :: rest =>
    match rest.reverse.dropWhile isBlank with
    | ')' :: inner => some (.parenthesized inner.reverse)
    | _ => none
  | _ :: _ => some .comparison

/-- What parentheses enclose is shorter than the text around it. -/
theorem length_lt_of_operandText?
    {text inner : List Char}
    (h : operandText? text = some (.parenthesized inner)) :
    inner.length < text.length := by
  unfold operandText? at h
  split at h
  · contradiction
  · rename_i rest hopen
    split at h
    · rename_i body hclose
      obtain rfl : body.reverse = inner := by
        simpa using h
      have hrest : (rest.reverse.dropWhile isBlank).length ≤ rest.length := by
        simpa using (List.dropWhile_sublist isBlank (l := rest.reverse)).length_le
      have htext : (text.dropWhile isBlank).length ≤ text.length :=
        (List.dropWhile_sublist isBlank).length_le
      rw [hclose] at hrest
      rw [hopen] at htext
      simp only [List.length_cons, List.length_reverse] at hrest htext ⊢
      omega
    · contradiction
  · simp at h

/-- A piece is no longer than what is cut. -/
theorem length_le_of_mem_piecesFrom
    {connector : Connector}
    {depth : Nat}
    {piece word text found : List Char}
    (h : found ∈ piecesFrom connector depth piece word text) :
    found.length ≤ piece.length + word.length + text.length := by
  induction text generalizing depth piece word with
  | nil =>
      simp only [piecesFrom] at h
      split at h
      · simp only [List.mem_cons, List.not_mem_nil, or_false] at h
        rcases h with rfl | rfl
        · simp only [List.length_dropLast]
          omega
        · simp
      · simp_all
  | cons c text ih =>
      simp only [piecesFrom] at h
      simp only [List.length_cons]
      split at h
      · split at h
        · rcases List.mem_cons.1 h with rfl | h
          · simp only [List.length_dropLast]
            omega
          · have hle := ih h
            simp only [List.length_nil] at hle
            omega
        · have hle := ih h
          simp only [List.length_append, List.length_cons, List.length_nil] at hle
          omega
      · have hle := ih h
        simp only [List.length_append, List.length_cons, List.length_nil] at hle
        omega

theorem length_le_of_mem_pieces
    {connector : Connector}
    {text found : List Char}
    (h : found ∈ pieces connector text) :
    found.length ≤ text.length := by
  simpa using length_le_of_mem_piecesFrom h

mutual

/-- The search condition that a text says. -/
def read? (text : List Char) : Option SearchCondition :=
  if Balanced text then
    (pieces .or text).attach.mapM fun ⟨alternative, _⟩ =>
      (pieces .and alternative).attach.mapM fun ⟨operand, _⟩ => readOperand? operand
  else
    none
termination_by (text.length, 1)
decreasing_by
  rename_i halternative hoperand
  have halternative' := length_le_of_mem_pieces halternative
  have hoperand' := length_le_of_mem_pieces hoperand
  grind

/-- The operand that a text says. -/
def readOperand? (text : List Char) : Option Operand :=
  match _h : operandText? text with
  | none => none
  | some .comparison => some (.comparison (String.ofList text))
  | some (.parenthesized inner) => (read? inner).map .group
termination_by (text.length, 0)
decreasing_by
  have hlength := length_lt_of_operandText? ‹_›
  grind

end

theorem read?_eq (text : List Char) :
    read? text =
      if Balanced text then
        (pieces .or text).mapM fun alternative => (pieces .and alternative).mapM readOperand?
      else
        none := by
  rw [read?]
  simp

end SearchText

/-- The search condition that a text says, if it says one. -/
def SearchCondition.ofText? (text : String) : Option SearchCondition :=
  SearchText.read? text.toList

/-! ### Comparisons -/

mutual

/-- The texts of the comparisons in an operand, from the left. -/
def Operand.comparisons : Operand → List String
  | .comparison text => [text]
  | .group alternatives => Operand.alternativesComparisons alternatives

/-- The texts of the comparisons in alternatives. -/
def Operand.alternativesComparisons : List (List Operand) → List String
  | [] => []
  | alternative :: alternatives =>
    Operand.conjunctionComparisons alternative ++ Operand.alternativesComparisons alternatives

/-- The texts of the comparisons in a conjunction. -/
def Operand.conjunctionComparisons : List Operand → List String
  | [] => []
  | operand :: operands => operand.comparisons ++ Operand.conjunctionComparisons operands

end

/-- The texts of the comparisons in a search condition, from the left. -/
def SearchCondition.comparisons (condition : SearchCondition) : List String :=
  condition.flatMap fun alternative => alternative.flatMap Operand.comparisons

theorem Operand.conjunctionComparisons_eq (operands : List Operand) :
    Operand.conjunctionComparisons operands = operands.flatMap Operand.comparisons := by
  induction operands with
  | nil =>
      rfl
  | cons operand operands ih =>
      rw [Operand.conjunctionComparisons, ih, List.flatMap_cons]

theorem Operand.comparisons_group (condition : SearchCondition) :
    (Operand.group condition).comparisons = condition.comparisons := by
  rw [Operand.comparisons]
  induction condition with
  | nil =>
      rfl
  | cons alternative condition ih =>
      rw [Operand.alternativesComparisons, ih, Operand.conjunctionComparisons_eq]
      rfl

theorem SearchCondition.comparisons_append (first second : SearchCondition) :
    SearchCondition.comparisons (first ++ second) = first.comparisons ++ second.comparisons :=
  List.flatMap_append

/-! ### Truth -/

section Truth

variable (truth : String → Prop)

mutual

/-- The truth of an operand. -/
def Operand.Holds : Operand → Prop
  | .comparison text => truth text
  | .group alternatives => Operand.AnyHolds alternatives

/-- Whether one of the alternatives holds. -/
def Operand.AnyHolds : List (List Operand) → Prop
  | [] => False
  | alternative :: alternatives =>
    Operand.AllHold alternative ∨ Operand.AnyHolds alternatives

/-- Whether all operands hold. -/
def Operand.AllHold : List Operand → Prop
  | [] => True
  | operand :: operands => operand.Holds ∧ Operand.AllHold operands

end

theorem Operand.allHold_iff (operands : List Operand) :
    Operand.AllHold truth operands ↔ ∀ operand ∈ operands, operand.Holds truth := by
  induction operands with
  | nil =>
      simp [Operand.AllHold]
  | cons operand operands ih =>
      simp [Operand.AllHold, ih]

/-- The truth of a search condition. -/
def SearchCondition.Holds (condition : SearchCondition) : Prop :=
  ∃ alternative ∈ condition, ∀ operand ∈ alternative, operand.Holds truth

theorem Operand.anyHolds_iff (condition : SearchCondition) :
    Operand.AnyHolds truth condition ↔ condition.Holds truth := by
  induction condition with
  | nil =>
      simp [Operand.AnyHolds, SearchCondition.Holds]
  | cons alternative condition ih =>
      simp only [Operand.AnyHolds, ih, Operand.allHold_iff]
      simp [SearchCondition.Holds]

theorem Operand.holds_group (condition : SearchCondition) :
    (Operand.group condition).Holds truth ↔ condition.Holds truth :=
  Operand.anyHolds_iff truth condition

theorem SearchCondition.holds_append (first second : SearchCondition) :
    SearchCondition.Holds truth (first ++ second) ↔
      first.Holds truth ∨ second.Holds truth := by
  simp [SearchCondition.Holds, or_and_right, exists_or]

end Truth

/-! ### Reading what was put together -/

namespace SearchText

/-- A comparison that no connector around it can take apart. -/
structure Plain (text : List Char) : Prop where
  balanced : Balanced text
  start : ∃ c, (text.dropWhile isBlank).head? = some c ∧ c ≠ '('
  lacks : ∀ connector, Lacks connector text

theorem plain_iff (text : List Char) :
    Plain text ↔
      Balanced text ∧ (text.dropWhile isBlank).head?.any (· ≠ '(') ∧
        Lacks .and text ∧ Lacks .or text := by
  constructor
  · rintro ⟨hbalanced, ⟨c, hc, hne⟩, hlacks⟩
    exact ⟨hbalanced, by simpa [hc] using hne, hlacks .and, hlacks .or⟩
  · rintro ⟨hbalanced, hstart, hand, hor⟩
    refine ⟨hbalanced, ?_, fun connector => ?_⟩
    · cases hc : (text.dropWhile isBlank).head? with
      | none =>
          simp [hc] at hstart
      | some c =>
          exact ⟨c, rfl, by simpa [hc] using hstart⟩
    · cases connector
      · exact hand
      · exact hor

instance (text : List Char) : Decidable (Plain text) :=
  decidable_of_iff _ (plain_iff text).symm

/-- A text that is read as an operand wherever it stands between connectors. -/
structure IsOperand (text : List Char) (operand : Operand) : Prop where
  read_eq : readOperand? text = some operand
  balanced : Balanced text
  lacks : ∀ connector, Lacks connector text

/-- A text that is read as an alternative wherever it stands between `or`s. -/
structure IsAlternative (text : List Char) (operands : List Operand) : Prop where
  read_eq : (pieces .and text).mapM readOperand? = some operands
  balanced : Balanced text
  lacks : Lacks .or text

theorem IsOperand.of_plain
    {text : List Char}
    (h : Plain text) :
    IsOperand text (.comparison (String.ofList text)) := by
  obtain ⟨c, hstart, hc⟩ := h.start
  have hwritten : operandText? text = some .comparison := by
    unfold operandText?
    split
    · simp_all
    · rename_i hopen
      simp [hopen, Ne.symm hc] at hstart
    · rfl
  refine ⟨?_, h.balanced, h.lacks⟩
  rw [readOperand?]
  split <;> simp_all

theorem balanced_of_read?
    {text : List Char}
    {condition : SearchCondition}
    (h : read? text = some condition) :
    Balanced text := by
  rw [read?_eq] at h
  split at h
  · assumption
  · contradiction

/-- A search condition in parentheses. -/
theorem IsOperand.parenthesized
    {inner : List Char}
    {condition : SearchCondition}
    (h : read? inner = some condition) :
    IsOperand ('(' :: (inner ++ [')'])) (.group condition) := by
  have hbalanced := balanced_of_read? h
  have hwritten :
      operandText? ('(' :: (inner ++ [')'])) = some (.parenthesized inner) := by
    simp [operandText?, isBlank]
  refine ⟨?_, hbalanced.parenthesized, fun connector => .parenthesized connector hbalanced⟩
  rw [readOperand?]
  split <;> simp_all

theorem IsOperand.ne_nil
    {text : List Char}
    {operand : Operand}
    (h : IsOperand text operand) :
    text ≠ [] := by
  rintro rfl
  have hread := h.read_eq
  simp [readOperand?, operandText?] at hread

/-- Operands with `and` between them. -/
theorem IsAlternative.of_spliced
    {texts : List (List Char)}
    {operands : List Operand}
    {text : List Char}
    (h : Spliced .and texts text)
    (hne : texts ≠ [])
    (hoperands : List.Forall₂ IsOperand texts operands) :
    IsAlternative text operands := by
  have hbalanced : ∀ t ∈ texts, Balanced t :=
    Fallible.forall_left_of_forall₂ hoperands fun _ _ hoperand => hoperand.balanced
  have hlacks : ∀ connector, ∀ t ∈ texts, Lacks connector t := fun connector =>
    Fallible.forall_left_of_forall₂ hoperands fun _ _ hoperand => hoperand.lacks connector
  refine ⟨?_, h.balanced hbalanced, h.lacks (by decide) hne hbalanced (hlacks .or)⟩
  rw [pieces_of_spliced h hne hbalanced (hlacks .and)]
  exact Fallible.mapM_eq_some_of_forall₂ (hoperands.imp fun _ _ hoperand => hoperand.read_eq)

/-- Alternatives with `or` between them are read as such. -/
theorem read?_of_spliced
    {texts : List (List Char)}
    {condition : SearchCondition}
    {text : List Char}
    (h : Spliced .or texts text)
    (hne : texts ≠ [])
    (halternatives : List.Forall₂ IsAlternative texts condition) :
    read? text = some condition := by
  have hbalanced : ∀ t ∈ texts, Balanced t :=
    Fallible.forall_left_of_forall₂ halternatives fun _ _ halternative => halternative.balanced
  have hlacks : ∀ t ∈ texts, Lacks .or t :=
    Fallible.forall_left_of_forall₂ halternatives fun _ _ halternative => halternative.lacks
  rw [read?_eq, if_pos (h.balanced hbalanced), pieces_of_spliced h hne hbalanced hlacks]
  exact Fallible.mapM_eq_some_of_forall₂ (halternatives.imp fun _ _ h => h.read_eq)

end SearchText

end SqlStatement
