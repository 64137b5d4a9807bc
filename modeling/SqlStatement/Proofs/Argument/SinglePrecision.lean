import SqlStatement.Proofs.Argument.Gaps
import SqlStatement.Proofs.Number.Shortest

/-!
# Single precision alone and in vectors

A vector of single-precision numbers is written with the digits that they have in single precision.
A number alone is kept in double precision, and it is written with the digits that it has there.
Both name the number, but mostly in another way.

* `Argument.joined_map_eq_iff` compares texts between commas one by one.
* `Argument.singles_written_alike_iff` is the main result, and
  `Argument.tenth_written_differently` a number that has two texts.
-/

namespace SqlStatement.Argument

/-- Texts between commas are told apart if they hold no comma. -/
theorem joined_map_eq_iff
    {α : Type}
    {xs : List α}
    {f g : α → String}
    (hf : ∀ x ∈ xs, ',' ∉ (f x).toList)
    (hg : ∀ x ∈ xs, ',' ∉ (g x).toList) :
    joined (xs.map f) = joined (xs.map g) ↔ ∀ x ∈ xs, f x = g x := by
  rw [← List.map_inj_left]
  constructor
  · intro hjoined
    by_cases hne : xs = []
    · rw [hne]
      rfl
    · calc xs.map f
          = splitAtCommas (joined (xs.map f)) :=
            (splitAtCommas_joined (by simpa using hne) (by simpa using hf)).symm
        _ = splitAtCommas (joined (xs.map g)) := by
            rw [hjoined]
        _ = xs.map g :=
            splitAtCommas_joined (by simpa using hne) (by simpa using hg)
  · exact congrArg joined

/-- A vector of single-precision numbers is written with their texts in single precision, and a
number alone with its text in double precision.  In single precision, both read as the number and as
no other.  The vector is the numbers alone between commas exactly if every text in the vector reads,
in double precision, as the number that is written alone. -/
theorem singles_written_alike_iff
    (field : String)
    (xs : List Binary32)
    (hfinite : ∀ x ∈ xs, x.isFinite = true) :
    (floats32 xs).listText? = some (joined (xs.map fun x => x.text .statement)) ∧
    (∀ x ∈ xs,
      (Condition.oneOf field (floats32 [x])).sql =
        .ok (field ++ " in (" ++ x.text .statement ++ ")") ∧
      (Condition.equals field (ofBinary32 x)).sql =
        .ok (field ++ " = " ++ x.widen.text .statement) ∧
      x.widen.value = x.value ∧
      ∀ text ∈ [x.text .statement, x.widen.text .statement], ∀ y : Binary32,
        y.isFinite = true → y.isNegative = x.isNegative →
          (y.IsReadFrom (readNumber text) ↔ y = x)) ∧
    ((floats32 xs).listText? = some (joined (xs.map fun x => (ofBinary32 x).plainText)) ↔
      ∀ x ∈ xs, x.widen.IsReadFrom (readNumber (x.text .statement))) := by
  have hlist : ∀ ys, (floats32 ys).listText? =
      some (joined (ys.map fun x => x.text .statement)) := fun _ => rfl
  have hsingle : ∀ x, (floats32 [x]).listText? = some (x.text .statement) := fun x =>
    congrArg some String.intercalate_singleton
  have hopen : field ++ " in (" = field ++ " " ++ "in" ++ " (" := by
    simp only [String.append_assoc]
    rfl
  have hcomma : ∀ {format} (x : Binary format), ',' ∉ (x.text .statement).toList := fun x =>
    (isToken_text .statement x).no_comma
  refine ⟨hlist xs, fun x hx => ?_, ?_⟩
  · have hwiden : x.widen.IsReadFrom (readNumber (x.widen.text .statement)) :=
      Binary.isReadFrom_text (Binary32.isFinite_widen (hfinite x hx))
    have hread : ∀ text ∈ [x.text .statement, x.widen.text .statement],
        x.IsReadFrom (readNumber text) := by
      rw [List.forall_mem_cons, List.forall_mem_singleton]
      exact ⟨Binary.isReadFrom_text (hfinite x hx),
        Binary32.isReadFrom_of_widen (hfinite x hx) hwiden⟩
    have hin : (Condition.oneOf field (floats32 [x])).sql =
        .ok (field ++ " in (" ++ x.text .statement ++ ")") := by
      rw [Condition.sql_of_listText? rfl (hsingle x), hopen]
      rfl
    exact ⟨hin, Condition.sql_equals _ _, Binary32.value_widen (hfinite x hx),
      fun text htext y hy hsign =>
        Binary.isReadFrom_iff_eq (by decide) (hfinite x hx) (hread text htext) hy hsign⟩
  · have hdiffer : joined (xs.map fun x => x.text .statement) =
        joined (xs.map fun x => (ofBinary32 x).plainText) ↔
          ∀ x ∈ xs, x.text .statement = (ofBinary32 x).plainText :=
      joined_map_eq_iff (fun x _ => hcomma x) fun x _ => hcomma (Binary32.widen x)
    rw [hlist, Option.some.injEq, hdiffer]
    refine forall₂_congr fun x hx => ?_
    rw [← Binary32.text_widen_eq_iff (hfinite x hx)]
    exact eq_comm

/-- One half reads in both precisions from the same digits, and one tenth does not. -/
theorem singles_written_alike_iff_half_tenth :
    let half : Binary32 := .ofNat .single 0x3f000000
    let tenth : Binary32 := .ofNat .single 0x3dcccccd
    (∀ x ∈ [half, tenth], x.isFinite = true) ∧
      half.widen.IsReadFrom (readNumber "0.5") ∧
      ¬tenth.widen.IsReadFrom (readNumber "0.1") := by
  intro half tenth
  have hhalf : ∀ x ∈ [half], x.isFinite = true := by
    decide +kernel
  have htenth : ∀ x ∈ [half, tenth], x.isFinite = true := by
    decide +kernel
  have htext : half.text .statement = "0.5" ∧ tenth.text .statement = "0.1" := by
    decide +kernel
  obtain ⟨-, -, halike⟩ := singles_written_alike_iff "f" [half] hhalf
  obtain ⟨-, -, hdifferent⟩ := singles_written_alike_iff "f" [half, tenth] htenth
  have hread := halike.1 (by decide +kernel) half List.mem_cons_self
  refine ⟨htenth, htext.1 ▸ hread, fun hno => ?_⟩
  have hall : ∀ x ∈ [half, tenth], x.widen.IsReadFrom (readNumber (x.text .statement)) := by
    rw [List.forall_mem_cons, List.forall_mem_singleton, htext.2]
    exact ⟨hread, hno⟩
  exact absurd (hdifferent.2 hall) (by decide +kernel)

/-- One tenth in single precision has two texts. -/
theorem tenth_written_differently :
    let tenth : Binary32 := .ofNat .single 0x3dcccccd
    tenth.isFinite = true ∧
      (floats32 [tenth]).listText? = some "0.1" ∧
      joined ([tenth].map fun x => (ofBinary32 x).plainText) = "0.10000000149011612" ∧
      (Condition.oneOf "f" (floats32 [tenth])).sql = .ok "f in (0.1)" ∧
      (Condition.equals "f" (ofBinary32 tenth)).sql = .ok "f = 0.10000000149011612" := by
  decide +kernel

end SqlStatement.Argument
