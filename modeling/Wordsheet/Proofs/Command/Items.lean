import Mathlib.Algebra.Ring.Parity
import Wordsheet.Proofs.Command.BareWords

/-! # Rows of items

The double quotes of a text pair up from left to right, and cut it into parts that lie outside and
inside quotes by turns. The items of a text whose quotes pair up are the words of the outer parts
and the inner parts as they are; a text with a quote left over has no items.
-/

namespace Wordsheet.Command

open Text

/-- The words of a text: its longest parts without a blank. -/
def words (cs : List Char) : List (List Char) :=
  (cs.splitOnP isBlank).filter (!·.isEmpty)

/-- The items of the parts of a text, which lie outside and inside quotes by turns. -/
def partItems : List (List Char) → List (List Char)
  | outside :: inside :: rest => words outside ++ inside :: partItems rest
  | [outside] => words outside
  | [] => []

/-- The items of a text whose quotes pair up. -/
def pairedItems (cs : List Char) : List (List Char) :=
  partItems (cs.splitOn '"')

variable {cs rest blanks word text : List Char} {c : Char} {item : String}

/-! ## Words -/

theorem words_of_blank (blank : ∀ c ∈ cs, isBlank c = true) : words cs = [] := by
  induction cs with
  | nil => rfl
  | cons c cs ih =>
      obtain ⟨hc, hcs⟩ := List.forall_mem_cons.1 blank
      rw [words, List.splitOnP_cons_eq_if_modifyHead, if_pos hc]
      exact ih hcs

theorem words_append_blank (hc : isBlank c = true) (front back : List Char) :
    words (front ++ c :: back) = words front ++ words back := by
  rw [words, List.splitOnP_append_cons _ _ hc, List.filter_append]
  rfl

theorem words_blanks_append (blank : ∀ c ∈ blanks, isBlank c = true) (cs : List Char) :
    words (blanks ++ cs) = words cs := by
  induction blanks with
  | nil => rfl
  | cons c blanks ih =>
      obtain ⟨hc, hblanks⟩ := List.forall_mem_cons.1 blank
      rw [List.cons_append, ← ih hblanks]
      exact words_append_blank hc [] _

theorem words_of_plain (nonempty : word ≠ []) (plain : ∀ c ∈ word, isBlank c = false) :
    words word = [word] := by
  rw [words, List.splitOnP_eq_singleton plain]
  simp [nonempty]

/-- A word ends where a blank follows it, or nothing. -/
theorem words_word_append (nonempty : word ≠ []) (plain : ∀ c ∈ word, isBlank c = false)
    (apart : Apart rest) : words (word ++ rest) = word :: words rest := by
  cases rest with
  | nil => rw [List.append_nil, words_of_plain nonempty plain]; rfl
  | cons c rest =>
      have hc := apart c rfl
      rw [words_append_blank hc, words_of_plain nonempty plain]
      exact congrArg (word :: ·) (words_append_blank hc [] rest).symm

/-! ## Parts -/

theorem splitOn_quote_append (unquoted : '"' ∉ word) (cs : List Char) :
    (word ++ cs).splitOn '"' = (cs.splitOn '"').modifyHead (word ++ ·) := by
  induction word with
  | nil => exact (congrFun List.modifyHead_id (cs.splitOn '"')).symm
  | cons c word ih =>
      simp only [List.mem_cons, not_or] at unquoted
      have hc : (c == '"') = false := beq_false_of_ne (Ne.symm unquoted.1)
      have hrest := ih unquoted.2
      rw [List.splitOn_eq_splitOnP] at hrest ⊢
      rw [List.cons_append, List.splitOnP_cons_eq_if_modifyHead, hc, if_neg Bool.false_ne_true,
        hrest, List.modifyHead_modifyHead]
      rfl

theorem splitOn_quote_cons (cs : List Char) :
    ('"' :: cs).splitOn '"' = [] :: cs.splitOn '"' :=
  List.splitOn_append_cons_self [] cs

theorem splitOn_of_unquoted (unquoted : '"' ∉ cs) : cs.splitOn '"' = [cs] := by
  have h := splitOn_quote_append unquoted []
  rwa [List.append_nil, List.splitOn_nil, List.modifyHead_cons, List.append_nil] at h

theorem exists_splitOn_quote (cs : List Char) :
    ∃ first parts, cs.splitOn '"' = first :: parts := by
  rw [List.splitOn_eq_splitOnP]
  exact List.exists_cons_of_ne_nil (List.splitOnP_ne_nil _ cs)

def EndsWord (cs : List Char) : Prop :=
  ∀ c ∈ cs.head?, isBare c = false

/-- Where a word ends, the part that it stands in is over or goes on with a blank. -/
theorem EndsWord.apart {first : List Char} {parts : List (List Char)} (ends : EndsWord cs)
    (h : cs.splitOn '"' = first :: parts) : Apart first := by
  cases cs with
  | nil =>
      cases h
      exact nofun
  | cons c cs =>
      obtain ⟨inner, others, hcs⟩ := exists_splitOn_quote cs
      by_cases hq : c = '"'
      · subst hq
        rw [splitOn_quote_cons] at h
        cases h
        exact nofun
      · have unquoted : '"' ∉ [c] := fun hm => hq (List.mem_singleton.1 hm).symm
        have hsplit := splitOn_quote_append unquoted cs
        rw [List.singleton_append, h, hcs] at hsplit
        cases hsplit
        intro d hd
        cases hd
        have hc := ends c rfl
        simpa [isBare, hq] using hc

theorem partItems_blanks_append (blank : ∀ c ∈ blanks, isBlank c = true) (first : List Char)
    (parts : List (List Char)) :
    partItems ((blanks ++ first) :: parts) = partItems (first :: parts) := by
  cases parts <;> simp only [partItems, words_blanks_append blank]

theorem partItems_word_append {first : List Char} (nonempty : word ≠ [])
    (plain : ∀ c ∈ word, isBlank c = false) (apart : Apart first) (parts : List (List Char)) :
    partItems ((word ++ first) :: parts) = word :: partItems (first :: parts) := by
  cases parts <;> simp only [partItems, words_word_append nonempty plain apart, List.cons_append]

/-! ## Items of a text whose quotes pair up -/

theorem pairedItems_of_unquoted (unquoted : '"' ∉ cs) : pairedItems cs = words cs := by
  rw [pairedItems, splitOn_of_unquoted unquoted, partItems]

theorem pairedItems_blanks_append (blank : ∀ c ∈ blanks, isBlank c = true) (cs : List Char) :
    pairedItems (blanks ++ cs) = pairedItems cs := by
  have unquoted : '"' ∉ blanks := fun hq => absurd (blank _ hq) (by decide)
  obtain ⟨first, parts, hcs⟩ := exists_splitOn_quote cs
  rw [pairedItems, splitOn_quote_append unquoted, pairedItems, hcs, List.modifyHead_cons,
    partItems_blanks_append blank]

theorem pairedItems_inQuotes (closed : '"' ∉ item.toList) (cs : List Char) :
    pairedItems (inQuotes item ++ cs) = item.toList :: pairedItems cs := by
  have inside : (item.toList ++ '"' :: cs).splitOn '"' = item.toList :: cs.splitOn '"' := by
    rw [splitOn_quote_append closed, splitOn_quote_cons, List.modifyHead_cons, List.append_nil]
  rw [inQuotes_append, pairedItems, splitOn_quote_cons, inside, partItems]
  rfl

theorem pairedItems_word (bare : BareWord item) (ends : EndsWord rest) :
    pairedItems (item.toList ++ rest) = item.toList :: pairedItems rest := by
  obtain ⟨first, parts, hrest⟩ := exists_splitOn_quote rest
  have plain : ∀ c ∈ item.toList, isBlank c = false :=
    fun c hc => not_isBlank_of_isBare (bare.2 c hc)
  rw [pairedItems, splitOn_quote_append bare.closed, pairedItems, hrest, List.modifyHead_cons,
    partItems_word_append bare.1 plain (ends.apart hrest)]

/-! ## Reading -/

theorem exists_blanks (h : trimStart cs = c :: rest) :
    ∃ blanks, cs = blanks ++ c :: rest ∧ (∀ b ∈ blanks, isBlank b = true) ∧
      isBlank c = false := by
  refine ⟨cs.takeWhile isBlank, ?_, fun b hb => List.mem_takeWhile_imp hb, ?_⟩
  · rw [← h, trimStart, List.takeWhile_append_dropWhile]
  · have stops := List.head?_dropWhile_not isBlank cs
    rw [show cs.dropWhile isBlank = c :: rest from h] at stops
    simpa using stops

/-- An item that is read stands between quotes, or is a word that ends where it can. -/
theorem bareOrQuoted?_eq_some (h : bareOrQuoted? cs = some (item, rest)) :
    cs = inQuotes item ++ rest ∧ '"' ∉ item.toList ∨
      cs = item.toList ++ rest ∧ BareWord item ∧ EndsWord rest := by
  unfold bareOrQuoted? at h
  split at h
  · cases h
  · next cs =>
      rw [quotedName?] at h
      split at h
      · cases h
      · next q left hdrop =>
          cases h
          have stops := List.head?_dropWhile_not (· != '"') cs
          rw [hdrop] at stops
          obtain rfl : q = '"' := by simpa using stops
          refine .inl ⟨?_, ?_⟩
          · rw [inQuotes_append, String.toList_ofList, ← hdrop, List.takeWhile_append_dropWhile]
          · rw [String.toList_ofList]
            intro hm
            simpa using List.mem_takeWhile_imp hm
  · next c cs _ =>
      split at h
      · next hc =>
          cases h
          refine .inr ⟨?_, ⟨by simp, ?_⟩, ?_⟩
          · rw [String.toList_ofList, List.cons_append, List.takeWhile_append_dropWhile]
          · rw [String.toList_ofList]
            exact List.forall_mem_cons.2 ⟨hc, fun d hd => List.mem_takeWhile_imp hd⟩
          · intro d hd
            have := List.head?_dropWhile_not isBare cs
            rwa [Option.mem_def.1 hd] at this
      · cases h

/-- Of what starts with no blank nothing is read only if it is a quote that no other follows. -/
theorem bareOrQuoted?_eq_none (plain : isBlank c = false)
    (h : bareOrQuoted? (c :: rest) = none) : c = '"' ∧ '"' ∉ rest := by
  by_cases hq : c = '"'
  · subst hq
    refine ⟨rfl, fun hm => ?_⟩
    have hopen : quotedName? rest = none := h
    rw [quotedName?] at hopen
    split at hopen
    · next hdrop => simpa using List.dropWhile_eq_nil_iff.1 hdrop _ hm
    · cases hopen
  · have bare : isBare c = true := by simp [isBare, plain, hq]
    rw [bareOrQuoted?_cons_of_isBare bare] at h
    cases h

theorem count_quote_blanks (blank : ∀ c ∈ blanks, isBlank c = true) : blanks.count '"' = 0 :=
  List.count_eq_zero.2 fun hq => absurd (blank _ hq) (by decide)

/-- A text has items exactly if its quotes pair up, and then they are those of its parts. -/
theorem items?_eq (cs : List Char) :
    items? cs =
      if Even (cs.count '"') then some ((pairedItems cs).map String.ofList) else none := by
  fun_induction items? cs with
  | case1 cs hs =>
      have blank : ∀ c ∈ cs, isBlank c = true :=
        List.all_eq_true.1 ((trimStart_eq_nil_iff cs).1 hs)
      have unquoted : '"' ∉ cs := fun hq => absurd (blank _ hq) (by decide)
      rw [count_quote_blanks blank, if_pos Even.zero, pairedItems_of_unquoted unquoted,
        words_of_blank blank]
      rfl
  | case2 cs c left hs hread =>
      obtain ⟨blanks, hcs, blank, plain⟩ := exists_blanks hs
      obtain ⟨rfl, unpaired⟩ := bareOrQuoted?_eq_none plain hread
      rw [hcs, List.count_append, count_quote_blanks blank, List.count_cons_self,
        List.count_eq_zero.2 unpaired, if_neg (by decide)]
  | case3 cs c left hs item after hread ih =>
      obtain ⟨blanks, hcs, blank, _⟩ := exists_blanks hs
      rw [ih, hcs, pairedItems_blanks_append blank, List.count_append, count_quote_blanks blank,
        Nat.zero_add]
      rcases bareOrQuoted?_eq_some hread with ⟨hleft, closed⟩ | ⟨hleft, bare, ends⟩
      · have both : (inQuotes item ++ after).count '"' = after.count '"' + 2 := by
          rw [inQuotes, List.count_append, List.count_cons_self, List.count_append,
            List.count_eq_zero.2 closed, List.count_singleton_self]
          omega
        have parity : Even (after.count '"' + 2) ↔ Even (after.count '"') :=
          Nat.even_add.trans (iff_true_right even_two)
        rw [hleft, both, if_congr parity rfl rfl, pairedItems_inQuotes closed, List.map_cons,
          String.ofList_toList]
        split <;> rfl
      · rw [hleft, List.count_append, List.count_eq_zero.2 bare.closed, Nat.zero_add,
          pairedItems_word bare ends, List.map_cons, String.ofList_toList]
        split <;> rfl

theorem items?_ne_nil (visible : isAllBlank cs = false) : items? cs ≠ some [] := by
  cases hs : trimStart cs with
  | nil => exact nomatch visible.symm.trans ((trimStart_eq_nil_iff cs).1 hs)
  | cons c left =>
      rw [items?_of_trimStart hs]
      intro none
      obtain ⟨read, _, hread⟩ := Option.bind_eq_some_iff.1 none
      obtain ⟨more, _, hmore⟩ := Option.map_eq_some_iff.1 hread
      cases hmore

/-- A text that does not consist of blanks is refused exactly if a quote is left over when its
quotes pair up. If none is, the items are the texts between the quotes of a pair and the words of
what lies outside, as they come, and there is one at least. A text without quotes is cut into its
words. -/
theorem items?_visible (visible : isAllBlank cs = false) :
    (items? cs = none ↔ Odd (cs.count '"')) ∧
    (Even (cs.count '"') →
      items? cs = some ((pairedItems cs).map String.ofList) ∧ pairedItems cs ≠ []) ∧
    ('"' ∉ cs → items? cs = some ((words cs).map String.ofList)) := by
  refine ⟨?_, fun even => ?_, fun unquoted => ?_⟩
  · rw [items?_eq, ← Nat.not_even_iff_odd]
    split
    · next even => exact iff_of_false nofun (not_not_intro even)
    · next odd => exact iff_of_true rfl odd
  · have read := (items?_eq cs).trans (if_pos even)
    refine ⟨read, fun none => items?_ne_nil visible ?_⟩
    rw [read, none]
    rfl
  · have even : Even (cs.count '"') := List.count_eq_zero.2 unquoted ▸ Even.zero
    rw [items?_eq, if_pos even, pairedItems_of_unquoted unquoted]

theorem items?_visible_adjacent :
    items? "a\"b\"\"\" \"c d\"e\u3000f".toList = some ["a", "b", "", "c d", "e", "f"] ∧
      items? "a \"b\" c\"".toList = none := by
  obtain ⟨_, paired, _⟩ := @items?_visible "a\"b\"\"\" \"c d\"e\u3000f".toList (by decide)
  obtain ⟨refused, _⟩ := @items?_visible "a \"b\" c\"".toList (by decide)
  exact ⟨(paired (by decide)).1.trans (by decide), refused.2 (by decide)⟩

end Wordsheet.Command
