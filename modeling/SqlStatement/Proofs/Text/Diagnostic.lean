import Mathlib.Data.List.Basic
import Mathlib.Tactic.Common
import SqlStatement.Text.Diagnostic

/-!
# Diagnostic text is unambiguous

A diagnostic text is put together from words, quoted strings and brackets.  Inside quotes everything
is escaped that would end the string early, and words hold no character of the notation, so the text
tells how it was put together, whatever the strings hold.

* `Diagnostic.eq_of_quoted_append_eq` reads a quoted string off the beginning of a text.
* `Diagnostic.Node` is what a text is put together from, and `Diagnostic.Node.text` the text.
* `Diagnostic.Node.isTold` reads a node off the beginning of a text, if what follows begins with a
  bracket that closes or with a comma.
* `Diagnostic.Node.eq_of_text_eq` is the main result.
-/

namespace SqlStatement.Diagnostic

/-! ### Hexadecimal digits -/

theorem digitChar_inj
    {m n : Nat}
    (hm : m < 16)
    (hn : n < 16)
    (h : Nat.digitChar m = Nat.digitChar n) :
    m = n := by
  have hall : ∀ m < 16, ∀ n < 16, Nat.digitChar m = Nat.digitChar n → m = n := by
    decide
  exact hall m hm n hn h

/-- No digit closes the braces around it. -/
theorem brace_not_mem_toDigits (n : Nat) : '\x7d' ∉ Nat.toDigits 16 n := by
  have hdigit : ∀ k < 16, '\x7d' ≠ Nat.digitChar k := by
    decide
  induction n using Nat.strongRecOn with
  | ind n ih =>
      by_cases hn : n < 16
      · rw [Nat.toDigits_of_lt_base hn, List.mem_singleton]
        exact hdigit n hn
      · rw [Nat.toDigits_of_base_le (by decide) (Nat.le_of_not_lt hn), List.mem_append,
          List.mem_singleton, not_or]
        exact ⟨ih (n / 16) (by omega), hdigit (n % 16) (Nat.mod_lt n (by decide))⟩

/-- Two numbers with the same hexadecimal digits are equal. -/
theorem toDigits_injective : Function.Injective (Nat.toDigits 16) := by
  intro m
  induction m using Nat.strongRecOn with
  | ind m ih =>
      intro n h
      have hlong : ∀ {k l : Nat}, k < 16 → 16 ≤ l → Nat.toDigits 16 k ≠ Nat.toDigits 16 l := by
        intro k l hk hl heq
        rw [Nat.toDigits_of_lt_base hk, Nat.toDigits_of_base_le (by decide) hl,
          List.singleton_eq_append_iff] at heq
        simp [Nat.toDigits_ne_nil] at heq
      rcases Nat.lt_or_ge m 16 with hm | hm <;> rcases Nat.lt_or_ge n 16 with hn | hn
      · rw [Nat.toDigits_of_lt_base hm, Nat.toDigits_of_lt_base hn, List.singleton_inj] at h
        exact digitChar_inj hm hn h
      · exact absurd h (hlong hm hn)
      · exact absurd h.symm (hlong hn hm)
      · rw [Nat.toDigits_of_base_le (by decide) hm, Nat.toDigits_of_base_le (by decide) hn] at h
        obtain ⟨hinit, hlast⟩ := List.append_inj' h rfl
        have hdiv : m / 16 = n / 16 := ih (m / 16) (by omega) hinit
        have hmod : m % 16 = n % 16 :=
          digitChar_inj (Nat.mod_lt m (by decide)) (Nat.mod_lt n (by decide))
            (List.singleton_inj.1 hlast)
        omega

/-! ### Texts up to a character -/

/-- A text tells the part of it up to the first character that does not have a property. -/
theorem eq_of_append_cons_eq
    {p : Char → Bool}
    {first second rest rest' : List Char}
    {c d : Char}
    (hfirst : ∀ x ∈ first, p x = true)
    (hsecond : ∀ x ∈ second, p x = true)
    (hc : p c = false)
    (hd : p d = false)
    (h : first ++ c :: rest = second ++ d :: rest') :
    first = second ∧ c :: rest = d :: rest' := by
  have htake : ∀ {part rest : List Char} {x : Char},
      (∀ y ∈ part, p y = true) → p x = false → (part ++ x :: rest).takeWhile p = part := by
    intro part rest x hpart hx
    rw [List.takeWhile_append_of_pos hpart, List.takeWhile_cons_of_neg (by simp [hx]),
      List.append_nil]
  obtain rfl : first = second := by
    rw [← htake hfirst hc, h, htake hsecond hd]
  exact ⟨rfl, List.append_cancel_left h⟩

/-! ### Strings -/

/-- The characters that are escaped by a name, with the name. -/
def namedEscapes : List (Char × Char) :=
  [('\x00', '0'), ('\t', 't'), ('\n', 'n'), ('\r', 'r'), ('\"', '\"'), ('\\', '\\')]

/-- What stands behind the backslash when a character is escaped, by its name or its code point. -/
def IsEscaped (c : Char) (tail : List Char) : Prop :=
  (∃ name, (c, name) ∈ namedEscapes ∧ tail = [name]) ∨ '\\' :: tail = codePointEscape c

/-- A character is escaped, or it is shown and is neither a quote nor a backslash. -/
theorem escape_eq (c : Char) :
    (∃ tail, escape c = '\\' :: tail ∧ IsEscaped c tail) ∨
      escape c = [c] ∧ c ≠ '\\' ∧ c ≠ '\"' := by
  unfold escape
  split_ifs with h0 ht hn hr hquote hbackslash hhidden
  · exact Or.inl ⟨['0'], rfl, Or.inl ⟨'0', by simp [namedEscapes, h0], rfl⟩⟩
  · exact Or.inl ⟨['t'], rfl, Or.inl ⟨'t', by simp [namedEscapes, ht], rfl⟩⟩
  · exact Or.inl ⟨['n'], rfl, Or.inl ⟨'n', by simp [namedEscapes, hn], rfl⟩⟩
  · exact Or.inl ⟨['r'], rfl, Or.inl ⟨'r', by simp [namedEscapes, hr], rfl⟩⟩
  · exact Or.inl ⟨['\"'], rfl, Or.inl ⟨'\"', by simp [namedEscapes, hquote], rfl⟩⟩
  · exact Or.inl ⟨['\\'], rfl, Or.inl ⟨'\\', by simp [namedEscapes, hbackslash], rfl⟩⟩
  · exact Or.inl ⟨_, rfl, Or.inr rfl⟩
  · exact Or.inr ⟨rfl, hbackslash, hquote⟩

/-- A line end is escaped, and a combining accent, which would attach to the character before it. -/
example : quoted "it's\n" = "\"it's\\n\"" ∧ quoted "e\u0301" = "\"e\\u\x7b301\x7d\"" := by
  decide +kernel

/-- The escape of a character does not begin with a quote. -/
theorem exists_escape_eq_cons (c : Char) : ∃ d rest, escape c = d :: rest ∧ d ≠ '\"' := by
  rcases escape_eq c with ⟨tail, h, -⟩ | ⟨h, -, hquote⟩
  · exact ⟨_, _, h, by decide⟩
  · exact ⟨_, _, h, hquote⟩

theorem eq_of_codePointEscape_append_eq
    {c d : Char}
    {rest rest' : List Char}
    (h : codePointEscape c ++ rest = codePointEscape d ++ rest') :
    c = d ∧ rest = rest' := by
  have hdigits : Nat.toDigits 16 c.toNat ++ '\x7d' :: rest =
      Nat.toDigits 16 d.toNat ++ '\x7d' :: rest' := by
    simpa [codePointEscape] using h
  have hnoBrace : ∀ n, ∀ x ∈ Nat.toDigits 16 n, (x != '\x7d') = true := by
    intro n x hx
    rw [bne_iff_ne]
    rintro rfl
    exact brace_not_mem_toDigits n hx
  obtain ⟨hcode, hrest⟩ :=
    eq_of_append_cons_eq (hnoBrace _) (hnoBrace _) (by decide) (by decide) hdigits
  exact ⟨Char.toNat_inj.1 (toDigits_injective hcode), (List.cons.inj hrest).2⟩

/-- What stands behind a backslash tells the character: no two have one name, and none has the name
with which a code point begins. -/
theorem IsEscaped.eq_of_append_eq
    {c d : Char}
    {tail tail' rest rest' : List Char}
    (hc : IsEscaped c tail)
    (hd : IsEscaped d tail')
    (h : tail ++ rest = tail' ++ rest') :
    c = d ∧ rest = rest' := by
  have hnames : ∀ p ∈ namedEscapes, ∀ q ∈ namedEscapes, p.2 = q.2 → p.1 = q.1 := by
    decide
  have hnoCode : ∀ {c name e : Char} {tail rest rest' : List Char},
      (c, name) ∈ namedEscapes → '\\' :: tail = codePointEscape e →
        [name] ++ rest ≠ tail ++ rest' := by
    intro c name e tail rest rest' hname htail h
    have hnoU : ∀ p ∈ namedEscapes, p.2 ≠ 'u' := by
      decide
    obtain rfl := (List.cons.inj htail).2
    exact hnoU _ hname (List.cons.inj h).1
  rcases hc with ⟨name, hname, rfl⟩ | hc <;> rcases hd with ⟨name', hname', rfl⟩ | hd
  · obtain ⟨heq, hrest⟩ := List.cons.inj h
    exact ⟨hnames _ hname _ hname' heq, hrest⟩
  · exact absurd h (hnoCode hname hd)
  · exact absurd h.symm (hnoCode hname' hc)
  · refine eq_of_codePointEscape_append_eq ?_
    rw [← hc, ← hd, List.cons_append, List.cons_append, h]

/-- The escape of a character is read off the beginning of a text. -/
theorem eq_of_escape_append_eq
    {c d : Char}
    {rest rest' : List Char}
    (h : escape c ++ rest = escape d ++ rest') :
    c = d ∧ rest = rest' := by
  rcases escape_eq c with ⟨tail, hc, htail⟩ | ⟨hc, hshown, -⟩ <;>
    rcases escape_eq d with ⟨tail', hd, htail'⟩ | ⟨hd, hshown', -⟩ <;>
    rw [hc, hd] at h
  · exact htail.eq_of_append_eq htail' (List.cons.inj h).2
  · exact absurd (List.cons.inj h).1.symm hshown'
  · exact absurd (List.cons.inj h).1 hshown
  · exact List.cons.inj h

/-- A string and its end are read off the beginning of a text. -/
theorem eq_of_flatMap_escape_append_eq
    {cs ds rest rest' : List Char}
    (h : cs.flatMap escape ++ '\"' :: rest = ds.flatMap escape ++ '\"' :: rest') :
    cs = ds ∧ rest = rest' := by
  have hend : ∀ {c : Char} {cs rest rest' : List Char},
      '\"' :: rest ≠ (c :: cs).flatMap escape ++ rest' := by
    intro c cs rest rest' h
    obtain ⟨d, tail, hescape, hquote⟩ := exists_escape_eq_cons c
    rw [List.flatMap_cons, hescape] at h
    exact hquote (List.cons.inj h).1.symm
  induction cs generalizing ds with
  | nil =>
      cases ds with
      | nil =>
          exact ⟨rfl, (List.cons.inj h).2⟩
      | cons d ds =>
          exact absurd h hend
  | cons c cs ih =>
      cases ds with
      | nil =>
          exact absurd h.symm hend
      | cons d ds =>
          rw [List.flatMap_cons, List.flatMap_cons, List.append_assoc, List.append_assoc] at h
          obtain ⟨rfl, htail⟩ := eq_of_escape_append_eq h
          obtain ⟨rfl, rfl⟩ := ih htail
          exact ⟨rfl, rfl⟩

theorem toList_quoted (s : String) :
    (quoted s).toList = '\"' :: (s.toList.flatMap escape ++ ['\"']) := by
  simp [quoted]

/-- A quoted string is read off the beginning of a text. -/
theorem eq_of_quoted_append_eq
    {s t : String}
    {rest rest' : List Char}
    (h : (quoted s).toList ++ rest = (quoted t).toList ++ rest') :
    s = t ∧ rest = rest' := by
  rw [toList_quoted, toList_quoted] at h
  have hinner : s.toList.flatMap escape ++ '\"' :: rest =
      t.toList.flatMap escape ++ '\"' :: rest' := by
    simpa using h
  obtain ⟨hs, hrest⟩ := eq_of_flatMap_escape_append_eq hinner
  exact ⟨String.toList_inj.1 hs, hrest⟩

/-! ### Nodes -/

/-- The brackets of the notation. -/
inductive Bracket where
  | round
  | square
  | curly
deriving DecidableEq

/-- The character that opens a bracket. -/
def Bracket.opening : Bracket → Char
  | round => '('
  | square => '['
  | curly => '\x7b'

/-- The character that closes a bracket. -/
def Bracket.closing : Bracket → Char
  | round => ')'
  | square => ']'
  | curly => '\x7d'

theorem Bracket.opening_injective : Function.Injective Bracket.opening := by
  intro first second h
  cases first <;> cases second <;> first | rfl | cases h

/-- The characters of the notation. -/
def marks : List Char :=
  ['(', ')', '[', ']', '\x7b', '\x7d', ',', ':', '\"']

/-- Whether a character belongs to the notation and so stands in no word. -/
def isMark (c : Char) : Bool :=
  marks.contains c

/-- Whether no character of a text belongs to the notation. -/
def isUnmarked (text : String) : Bool :=
  text.toList.all fun c => !isMark c

theorem isUnmarked_iff (text : String) :
    isUnmarked text = true ↔ ∀ c ∈ text.toList, isMark c = false := by
  simp [isUnmarked]

/-- What a diagnostic text is put together from. -/
inductive Node where
  /-- A name or a number. -/
  | word (text : String)
  | quoted (content : String)
  /-- A field of an object. -/
  | entry (key : String) (value : Node)
  /-- Items in brackets behind a name, which may be missing. -/
  | bracketed (head : String) (bracket : Bracket) (items : List Node)

/-- Texts with commas between them. -/
def separated : List (List Char) → List Char
  | [] => []
  | text :: texts => text ++ texts.flatMap fun t => ',' :: ' ' :: t

namespace Node

mutual

/-- The text of a node. -/
def text : Node → List Char
  | word text => text.toList
  | quoted content => (Diagnostic.quoted content).toList
  | entry key value => (Diagnostic.quoted key).toList ++ ':' :: ' ' :: value.text
  | bracketed head bracket items =>
    head.toList ++ bracket.opening :: (separated (texts items) ++ [bracket.closing])

/-- The texts of nodes. -/
def texts : List Node → List (List Char)
  | [] => []
  | node :: nodes => node.text :: texts nodes

end

mutual

/-- Whether all words are words: no name or number holds a character of the notation, and none but a
name before brackets is empty. -/
def HasWords : Node → Prop
  | word text => text ≠ "" ∧ isUnmarked text = true
  | quoted _ => True
  | entry _ value => value.HasWords
  | bracketed head _ items => isUnmarked head = true ∧ AllHaveWords items

/-- Whether all words in nodes are words. -/
def AllHaveWords : List Node → Prop
  | [] => True
  | node :: nodes => node.HasWords ∧ AllHaveWords nodes

end

theorem texts_eq_map (nodes : List Node) : texts nodes = nodes.map text := by
  induction nodes with
  | nil =>
      rfl
  | cons node nodes ih =>
      rw [texts, ih, List.map_cons]

theorem allHaveWords_iff (nodes : List Node) :
    AllHaveWords nodes ↔ ∀ node ∈ nodes, node.HasWords := by
  induction nodes with
  | nil =>
      simp [AllHaveWords]
  | cons node nodes ih =>
      simp [AllHaveWords, ih]

/-- The node of a value in parentheses. -/
def tagged (kind : String) (value : Node) : Node :=
  bracketed kind .round [value]

/-- The node of a sequence. -/
def listed (items : List Node) : Node :=
  bracketed "" .square items

theorem intercalate_eq_separated (texts : List (List Char)) :
    [',', ' '].intercalate texts = separated texts := by
  induction texts with
  | nil =>
      rfl
  | cons t texts ih =>
      cases texts with
      | nil =>
          simp [separated]
      | cons u texts =>
          rw [List.intercalate_cons_cons, ih]
          simp [separated]

/-- A value in parentheses is shown as the text of its node if the value is. -/
theorem toList_tagged
    {value : String}
    {node : Node}
    (kind : String)
    (h : value.toList = node.text) :
    (Diagnostic.tagged kind value).toList = (tagged kind node).text := by
  simp [Diagnostic.tagged, tagged, text, texts, separated, Bracket.opening, Bracket.closing, h]

/-- A sequence is shown as the text of its node if its items are. -/
theorem toList_listed
    {items : List String}
    {nodes : List Node}
    (h : items.map String.toList = texts nodes) :
    (Diagnostic.listed items).toList = (listed nodes).text := by
  simp [Diagnostic.listed, listed, text, Bracket.opening, Bracket.closing, h,
    intercalate_eq_separated]

theorem toList_listed_map
    {α : Type}
    {shown : α → String}
    {node : α → Node}
    (h : ∀ x, (shown x).toList = (node x).text)
    (items : List α) :
    (Diagnostic.listed (items.map shown)).toList = (listed (items.map node)).text := by
  refine toList_listed ?_
  rw [texts_eq_map, List.map_map, List.map_map]
  exact List.map_congr_left fun x _ => h x

theorem hasWords_tagged
    {kind : String}
    {node : Node}
    (hkind : isUnmarked kind = true)
    (h : node.HasWords) :
    (tagged kind node).HasWords :=
  ⟨hkind, h, trivial⟩

theorem hasWords_listed
    {nodes : List Node}
    (h : AllHaveWords nodes) :
    (listed nodes).HasWords :=
  ⟨rfl, h⟩

theorem hasWords_listed_map
    {α : Type}
    {node : α → Node}
    (h : ∀ x, (node x).HasWords)
    (items : List α) :
    (listed (items.map node)).HasWords :=
  hasWords_listed ((allHaveWords_iff _).2 (List.forall_mem_map.2 fun x _ => h x))

theorem tagged_injective (kind : String) : Function.Injective (tagged kind) := by
  intro value value' h
  simpa [tagged] using h

theorem listed_injective : Function.Injective listed := by
  intro items items' h
  simpa [listed] using h

/-! ### Reading nodes off a text -/

/-- The characters that can follow a node. -/
def enders : List Char :=
  [')', ']', '\x7d', ',']

/-- What follows begins with a bracket that closes or with a comma. -/
def Ends (rest : List Char) : Prop :=
  ∃ c tail, rest = c :: tail ∧ c ∈ enders

theorem ends_closing (bracket : Bracket) (rest : List Char) : Ends (bracket.closing :: rest) :=
  ⟨_, _, rfl, by cases bracket <;> decide⟩

theorem not_ends_colon {rest : List Char} : ¬Ends (':' :: rest) := by
  rintro ⟨c, tail, h, hc⟩
  obtain ⟨rfl, -⟩ := List.cons.inj h
  revert hc
  decide

theorem isMark_of_mem_enders : ∀ c ∈ enders, isMark c = true :=
  List.all_eq_true.1 (by decide)

theorem isMark_opening (bracket : Bracket) : isMark bracket.opening = true := by
  cases bracket <;> decide

theorem opening_not_mem_enders (bracket : Bracket) : bracket.opening ∉ enders := by
  cases bracket <;> decide

/-- The name that a text begins with, if there is one. -/
def lead : Node → List Char
  | word text => text.toList
  | quoted _ | entry _ _ => []
  | bracketed head _ _ => head.toList

/-- The text behind the name that it begins with. -/
def behindLead : Node → List Char
  | word _ => []
  | quoted content => (Diagnostic.quoted content).toList
  | entry key value => (Diagnostic.quoted key).toList ++ ':' :: ' ' :: value.text
  | bracketed _ bracket items => bracket.opening :: (separated (texts items) ++ [bracket.closing])

theorem text_eq (node : Node) : node.text = node.lead ++ node.behindLead := by
  cases node <;> simp [text, lead, behindLead]

theorem isMark_of_mem_lead
    {node : Node}
    (h : node.HasWords) :
    ∀ c ∈ node.lead, isMark c = false := by
  cases node with
  | word text =>
      exact (isUnmarked_iff text).1 h.2
  | quoted _ | entry _ _ =>
      simp [lead]
  | bracketed head bracket items =>
      exact (isUnmarked_iff head).1 h.1

/-- Only a word ends before what follows it does. -/
theorem exists_behindLead_eq_cons
    {node : Node}
    (h : ∀ text, node ≠ word text) :
    ∃ c tail, node.behindLead = c :: tail ∧ isMark c = true ∧ c ∉ enders := by
  cases node with
  | word text =>
      exact absurd rfl (h text)
  | quoted content =>
      exact ⟨_, _, toList_quoted content, by decide, by decide⟩
  | entry key value =>
      exact ⟨_, _, by rw [behindLead, toList_quoted, List.cons_append], by decide, by decide⟩
  | bracketed head bracket items =>
      exact ⟨_, _, rfl, isMark_opening bracket, opening_not_mem_enders bracket⟩

theorem exists_behindLead_append_eq_cons
    {rest : List Char}
    (node : Node)
    (hrest : Ends rest) :
    ∃ c tail, node.behindLead ++ rest = c :: tail ∧ isMark c = true := by
  by_cases hword : ∃ text, node = word text
  · obtain ⟨text, rfl⟩ := hword
    obtain ⟨c, tail, rfl, hc⟩ := hrest
    exact ⟨c, tail, rfl, isMark_of_mem_enders c hc⟩
  · obtain ⟨c, tail, h, hc, -⟩ := exists_behindLead_eq_cons (not_exists.1 hword)
    exact ⟨c, tail ++ rest, by rw [h, List.cons_append], hc⟩

/-- The first character of a text closes no bracket. -/
theorem exists_text_eq_cons
    {node : Node}
    (h : node.HasWords) :
    ∃ c tail, node.text = c :: tail ∧ c ∉ enders := by
  have hlead : ∀ c ∈ node.lead, c ∉ enders := by
    intro c hc hend
    have hmark := isMark_of_mem_lead h c hc
    rw [isMark_of_mem_enders c hend] at hmark
    cases hmark
  rw [text_eq]
  cases hnode : node.lead with
  | cons c lead =>
      exact ⟨c, _, rfl, hlead c (hnode ▸ List.mem_cons_self)⟩
  | nil =>
      have hword : ∀ text, node ≠ word text := by
        rintro text rfl
        exact h.1 (String.toList_eq_nil_iff.1 hnode)
      obtain ⟨c, tail, hbehind, -, hc⟩ := exists_behindLead_eq_cons hword
      exact ⟨c, tail, hbehind, hc⟩

/-- Behind the name, the first character is that of the node unless the node is a word. -/
theorem head?_behindLead
    {rest : List Char}
    (node : Node)
    (hrest : Ends rest) :
    node.behindLead.head? =
      (node.behindLead ++ rest).head?.filter fun c => decide (c ∉ enders) := by
  by_cases hword : ∃ text, node = word text
  · obtain ⟨text, rfl⟩ := hword
    obtain ⟨c, tail, rfl, hc⟩ := hrest
    simp [behindLead, Option.filter, hc]
  · obtain ⟨c, tail, h, -, hc⟩ := exists_behindLead_eq_cons (not_exists.1 hword)
    simp [h, Option.filter, hc]

/-- A text tells the name it begins with, the character behind it, and what stands there. -/
theorem parts_eq_of_text_append_eq
    {node other : Node}
    {rest rest' : List Char}
    (hnode : node.HasWords)
    (hother : other.HasWords)
    (hrest : Ends rest)
    (hrest' : Ends rest')
    (h : node.text ++ rest = other.text ++ rest') :
    node.lead = other.lead ∧
      node.behindLead.head? = other.behindLead.head? ∧
      node.behindLead ++ rest = other.behindLead ++ rest' := by
  obtain ⟨c, tail, hc, hmark⟩ := exists_behindLead_append_eq_cons node hrest
  obtain ⟨d, tail', hd, hmark'⟩ := exists_behindLead_append_eq_cons other hrest'
  have hparts : node.lead = other.lead ∧
      node.behindLead ++ rest = other.behindLead ++ rest' := by
    rw [text_eq, text_eq, List.append_assoc, List.append_assoc, hc, hd] at h
    rw [hc, hd]
    exact eq_of_append_cons_eq (p := fun c => !isMark c)
      (fun c hc => by rw [isMark_of_mem_lead hnode c hc, Bool.not_false])
      (fun c hc => by rw [isMark_of_mem_lead hother c hc, Bool.not_false])
      (by rw [hmark, Bool.not_true]) (by rw [hmark', Bool.not_true]) h
  refine ⟨hparts.1, ?_, hparts.2⟩
  rw [head?_behindLead node hrest, head?_behindLead other hrest', hparts.2]

/-- A node is read off the beginning of every text in which it is followed by what ends it. -/
def IsTold (node : Node) : Prop :=
  ∀ (other : Node) (rest rest' : List Char),
    other.HasWords → Ends rest → Ends rest' →
      node.text ++ rest = other.text ++ rest' → node = other ∧ rest = rest'

/-- The text of items that follow another one. -/
def furtherText (nodes : List Node) : List Char :=
  (nodes.map text).flatMap fun t => ',' :: ' ' :: t

theorem furtherText_cons (node : Node) (nodes : List Node) :
    furtherText (node :: nodes) = ',' :: ' ' :: (node.text ++ furtherText nodes) := by
  simp [furtherText]

theorem separated_texts_cons (node : Node) (nodes : List Node) :
    separated (texts (node :: nodes)) = node.text ++ furtherText nodes := by
  rw [texts, separated, texts_eq_map, furtherText]

theorem ends_furtherText
    (nodes : List Node)
    (bracket : Bracket)
    (rest : List Char) :
    Ends (furtherText nodes ++ bracket.closing :: rest) := by
  cases nodes with
  | nil =>
      exact ends_closing bracket rest
  | cons node nodes =>
      rw [furtherText_cons, List.cons_append]
      exact ⟨_, _, rfl, by decide⟩

/-- The items behind the first one are read off up to the bracket that closes. -/
theorem eq_of_furtherText_append_eq
    {nodes others : List Node}
    {rest rest' : List Char}
    {bracket : Bracket}
    (hnodes : ∀ node ∈ nodes, node.IsTold)
    (hothers : ∀ other ∈ others, other.HasWords)
    (h : furtherText nodes ++ bracket.closing :: rest =
      furtherText others ++ bracket.closing :: rest') :
    nodes = others ∧ rest = rest' := by
  have hcomma : bracket.closing ≠ ',' := by
    cases bracket <;> decide
  induction nodes generalizing others with
  | nil =>
      cases others with
      | nil =>
          exact ⟨rfl, (List.cons.inj h).2⟩
      | cons other others =>
          rw [furtherText_cons] at h
          exact absurd (List.cons.inj h).1 hcomma
  | cons node nodes ih =>
      cases others with
      | nil =>
          rw [furtherText_cons] at h
          exact absurd (List.cons.inj h).1.symm hcomma
      | cons other others =>
          obtain ⟨hnode, hnodesTail⟩ := List.forall_mem_cons.1 hnodes
          obtain ⟨hother, hothersTail⟩ := List.forall_mem_cons.1 hothers
          have htexts : node.text ++ (furtherText nodes ++ bracket.closing :: rest) =
              other.text ++ (furtherText others ++ bracket.closing :: rest') := by
            simpa [furtherText_cons] using h
          obtain ⟨rfl, hfurther⟩ := hnode other _ _ hother (ends_furtherText nodes bracket rest)
            (ends_furtherText others bracket rest') htexts
          obtain ⟨rfl, rfl⟩ := ih hnodesTail hothersTail hfurther
          exact ⟨rfl, rfl⟩

/-- Items are read off up to the bracket that closes. -/
theorem eq_of_separated_append_eq
    {nodes others : List Node}
    {rest rest' : List Char}
    {bracket : Bracket}
    (hnodes : ∀ node ∈ nodes, node.HasWords ∧ node.IsTold)
    (hothers : ∀ other ∈ others, other.HasWords)
    (h : separated (texts nodes) ++ bracket.closing :: rest =
      separated (texts others) ++ bracket.closing :: rest') :
    nodes = others ∧ rest = rest' := by
  -- The bracket does not close where an item begins.
  have hclosing : ∀ {node : Node} {nodes : List Node} {rest rest' : List Char},
      node.HasWords →
        bracket.closing :: rest ≠ separated (texts (node :: nodes)) ++ rest' := by
    intro node nodes rest rest' hnode h
    obtain ⟨c, tail, htext, hc⟩ := exists_text_eq_cons hnode
    rw [separated_texts_cons, htext] at h
    rw [← (List.cons.inj h).1] at hc
    exact hc (by cases bracket <;> decide)
  cases nodes with
  | nil =>
      cases others with
      | nil =>
          exact ⟨rfl, (List.cons.inj h).2⟩
      | cons other others =>
          exact absurd h (hclosing (hothers other List.mem_cons_self))
  | cons node nodes =>
      cases others with
      | nil =>
          exact absurd h.symm (hclosing (hnodes node List.mem_cons_self).1)
      | cons other others =>
          obtain ⟨⟨-, hnode⟩, hnodesTail⟩ := List.forall_mem_cons.1 hnodes
          obtain ⟨hother, hothersTail⟩ := List.forall_mem_cons.1 hothers
          rw [separated_texts_cons, separated_texts_cons, List.append_assoc,
            List.append_assoc] at h
          obtain ⟨rfl, hfurther⟩ := hnode other _ _ hother (ends_furtherText nodes bracket rest)
            (ends_furtherText others bracket rest') h
          obtain ⟨rfl, rfl⟩ :=
            eq_of_furtherText_append_eq (fun node hmem => (hnodesTail node hmem).2) hothersTail
              hfurther
          exact ⟨rfl, rfl⟩

mutual

/-- Every node is told: the name and the character behind it tell its kind, and then its parts are
told. -/
theorem isTold : ∀ node : Node, node.HasWords → node.IsTold
  | word text, hnode => by
      intro other rest rest' hother hrest hrest' h
      obtain ⟨hlead, hhead, hbehind⟩ := parts_eq_of_text_append_eq hnode hother hrest hrest' h
      cases other with
      | word text' =>
          exact ⟨congrArg word (String.toList_inj.1 hlead), hbehind⟩
      | quoted _ | entry _ _ | bracketed _ _ _ =>
          simp [behindLead, toList_quoted] at hhead
  | quoted content, hnode => by
      intro other rest rest' hother hrest hrest' h
      obtain ⟨-, hhead, hbehind⟩ := parts_eq_of_text_append_eq hnode hother hrest hrest' h
      cases other with
      | quoted content' =>
          obtain ⟨rfl, rfl⟩ := eq_of_quoted_append_eq hbehind
          exact ⟨rfl, rfl⟩
      | entry key value =>
          rw [behindLead, behindLead, List.append_assoc] at hbehind
          obtain ⟨-, hcolon⟩ := eq_of_quoted_append_eq hbehind
          exact absurd (hcolon ▸ hrest) not_ends_colon
      | word _ =>
          simp [behindLead, toList_quoted] at hhead
      | bracketed _ bracket _ =>
          cases bracket <;> simp [behindLead, toList_quoted, Bracket.opening] at hhead
  | entry key value, hnode => by
      intro other rest rest' hother hrest hrest' h
      obtain ⟨-, hhead, hbehind⟩ := parts_eq_of_text_append_eq hnode hother hrest hrest' h
      cases other with
      | quoted content =>
          rw [behindLead, behindLead, List.append_assoc] at hbehind
          obtain ⟨-, hcolon⟩ := eq_of_quoted_append_eq hbehind
          exact absurd (hcolon ▸ hrest') not_ends_colon
      | entry key' value' =>
          rw [behindLead, behindLead, List.append_assoc, List.append_assoc] at hbehind
          obtain ⟨rfl, hvalue⟩ := eq_of_quoted_append_eq hbehind
          obtain ⟨rfl, rfl⟩ := isTold value hnode value' rest rest' hother hrest hrest'
            (List.cons.inj (List.cons.inj hvalue).2).2
          exact ⟨rfl, rfl⟩
      | word _ =>
          simp [behindLead, toList_quoted] at hhead
      | bracketed _ bracket _ =>
          cases bracket <;> simp [behindLead, toList_quoted, Bracket.opening] at hhead
  | bracketed head bracket items, hnode => by
      intro other rest rest' hother hrest hrest' h
      obtain ⟨hlead, hhead, hbehind⟩ := parts_eq_of_text_append_eq hnode hother hrest hrest' h
      cases other with
      | bracketed head' bracket' items' =>
          obtain rfl : bracket = bracket' := Bracket.opening_injective (Option.some.inj hhead)
          have hitems : separated (texts items) ++ bracket.closing :: rest =
              separated (texts items') ++ bracket.closing :: rest' := by
            simpa [behindLead] using hbehind
          have htold := isTold_of_mem items hnode.2
          have hwords := (allHaveWords_iff items).1 hnode.2
          obtain ⟨rfl, rfl⟩ := eq_of_separated_append_eq
            (fun item hitem => ⟨hwords item hitem, htold item hitem⟩)
            ((allHaveWords_iff items').1 hother.2) hitems
          obtain rfl : head = head' := String.toList_inj.1 hlead
          exact ⟨rfl, rfl⟩
      | word _ | quoted _ | entry _ _ =>
          cases bracket <;> simp [behindLead, toList_quoted, Bracket.opening] at hhead

theorem isTold_of_mem :
    ∀ nodes : List Node, AllHaveWords nodes → ∀ node ∈ nodes, node.IsTold
  | [], _, node, hmem => by
      cases hmem
  | first :: nodes, h, node, hmem => by
      rcases List.mem_cons.1 hmem with heq | hmem
      · exact heq ▸ isTold first h.1
      · exact isTold_of_mem nodes h.2 node hmem

end

/-- Nodes with the same text are the same. -/
theorem eq_of_text_eq
    {node other : Node}
    (hnode : node.HasWords)
    (hother : other.HasWords)
    (h : node.text = other.text) :
    node = other := by
  have hends : Ends [')'] := ends_closing .round []
  exact (isTold node hnode other [')'] [')'] hother hends hends (by rw [h])).1

end Node

end SqlStatement.Diagnostic
