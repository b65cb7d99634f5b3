import Mathlib.Data.List.Basic
import Wordsheet.Command.Words

/-! # Written words

What the readers of words make of a keyword in any letter case, of a text between double quotes and
of a row of such texts.
-/

namespace Wordsheet.Command

open Text

variable {gap rest : List Char} {c : Char}

/-! ## Gaps -/

theorem eq_of_isGap (h : isGap c = true) :
    c = ' ' ∨ c = '\t' ∨ c = '\x0c' ∨ c = '\r' ∨ c = '\n' := by
  simpa [isGap, or_assoc] using h

theorem skipGap_append (h : ∀ c ∈ gap, isGap c = true) (cs : List Char) :
    skipGap (gap ++ cs) = skipGap cs :=
  List.dropWhile_append_of_pos h

theorem skipGap_cons (h : isGap c = false) (cs : List Char) : skipGap (c :: cs) = c :: cs :=
  List.dropWhile_cons_of_neg (by simp [h])

def Stops (cs : List Char) : Prop :=
  ∀ c ∈ cs.head?, isGap c = true

theorem atWordEnd_of_stops {cs : List Char} (h : Stops cs) : atWordEnd cs = true := by
  cases cs with
  | nil => rfl
  | cons c cs =>
      have hc : isWordChar c = false := by
        rcases eq_of_isGap (h c rfl) with rfl | rfl | rfl | rfl | rfl <;> rfl
      rw [atWordEnd, hc, Bool.not_false]

/-! ## Letters -/

theorem not_isLower_of_isGap (h : isGap c = true) : c.toLower.isLower = false := by
  rcases eq_of_isGap h with rfl | rfl | rfl | rfl | rfl <;> rfl

theorem isGap_of_isLower (h : c.toLower.isLower = true) : isGap c = false := by
  rw [← Bool.not_eq_true]
  intro hg
  rw [not_isLower_of_isGap hg] at h
  cases h

theorem isAlphanum_of_isUpper (h : c.isUpper = true) : c.isAlphanum = true :=
  Bool.or_eq_true_iff.2 (.inl (Bool.or_eq_true_iff.2 (.inl h)))

theorem isAlphanum_of_isLower (h : c.isLower = true) : c.isAlphanum = true :=
  Bool.or_eq_true_iff.2 (.inl (Bool.or_eq_true_iff.2 (.inr h)))

theorem isWordChar_of_isLower (h : c.toLower.isLower = true) : isWordChar c = true := by
  have ascii : c.toNat < 128 ∧ c.isAlphanum = true := by
    by_cases upper : c.isUpper = true
    · have hz := UInt32.le_iff_toNat_le.1 (of_decide_eq_true upper).2
      exact ⟨Nat.lt_of_le_of_lt hz (by decide), isAlphanum_of_isUpper upper⟩
    · have same : c.toLower = c := dif_neg fun between => upper (decide_eq_true between)
      rw [same] at h
      have hz := UInt32.le_iff_toNat_le.1 (of_decide_eq_true (Bool.and_eq_true_iff.1 h).2)
      exact ⟨Nat.lt_of_le_of_lt hz (by decide), isAlphanum_of_isLower h⟩
  rw [isWordChar, if_pos ascii.1, ascii.2, Bool.true_or]

theorem toLower_of_isLower (h : c.isLower = true) : c.toLower = c := by
  refine dif_neg fun upper => ?_
  have ha := UInt32.le_iff_toNat_le.1 (of_decide_eq_true (Bool.and_eq_true_iff.1 h).1)
  have hz := UInt32.le_iff_toNat_le.1 upper.2
  exact absurd (Nat.le_trans ha hz) (by decide)

/-- An ASCII letter is no other letter in another form. -/
theorem isLetter_of_isLower (h : c.toLower.isLower = true) (small : Char) :
    isLetter small c = (c.toLower == small) := by
  have hne {other : Char} (ho : other.toLower.isLower = false) : (c == other) = false := by
    refine beq_false_of_ne ?_
    rintro rfl
    rw [h] at ho
    cases ho
  have hs : (c == 'ſ') = false := hne rfl
  have hi : (c == 'ı') = false := hne rfl
  have hd : (c == 'İ') = false := hne rfl
  rw [isLetter, hs, hi, hd]
  simp

theorem isLetter_of_not_isLower {small : Char} (hs : small.isLower = true)
    (h : c.toLower.isLower = false) (ascii : c.toNat < 128) : isLetter small c = false := by
  have hne : (c.toLower == small) = false := by
    refine beq_false_of_ne ?_
    rintro rfl
    rw [h] at hs
    cases hs
  have hfar {other : Char} (ho : 128 ≤ other.toNat) : (c == other) = false := by
    refine beq_false_of_ne ?_
    rintro rfl
    omega
  have hl : (c == 'ſ') = false := hfar (by decide)
  have hi : (c == 'ı') = false := hfar (by decide)
  have hd : (c == 'İ') = false := hfar (by decide)
  rw [isLetter, hne, hl, hi, hd]
  simp

/-! ## Keywords -/

def isKeyword (s : String) : Bool :=
  !s.toList.isEmpty && s.toList.all Char.isLower

theorem afterLetters?_spelled {letters written : List Char}
    (small : ∀ letter ∈ letters, letter.isLower = true)
    (spelled : ∀ c ∈ written, c.toLower.isLower = true) (stop : Stops rest) :
    (afterLetters? letters (written ++ rest)).filter atWordEnd =
      if letters = written.map Char.toLower then some rest else none := by
  -- on the letters asked for: they may end first, and then the word goes on and does not fit
  induction letters generalizing written with
  | nil =>
      cases written with
      | nil => simp [afterLetters?, atWordEnd_of_stops stop]
      | cons c written =>
          have hc := isWordChar_of_isLower (spelled c List.mem_cons_self)
          simp [afterLetters?, atWordEnd, hc]
  | cons letter letters ih =>
      obtain ⟨hl, small⟩ := List.forall_mem_cons.1 small
      cases written with
      | nil =>
          cases rest with
          | nil => rfl
          | cons g rest =>
              have hg := stop g rfl
              have hlow := not_isLower_of_isGap hg
              have ascii : g.toNat < 128 := by
                rcases eq_of_isGap hg with rfl | rfl | rfl | rfl | rfl <;> decide
              simp [afterLetters?, isLetter_of_not_isLower hl hlow ascii]
      | cons c written =>
          obtain ⟨hc, spelled⟩ := List.forall_mem_cons.1 spelled
          rw [List.cons_append, afterLetters?, isLetter_of_isLower hc, List.map_cons]
          by_cases he : c.toLower = letter
          · simp [he, ih small spelled]
          · simp [he, Ne.symm he]

variable {keyword word : String}

theorem isKeyword_iff : isKeyword word = true ↔
    word.toList ≠ [] ∧ ∀ c ∈ word.toList, c.isLower = true := by
  simp [isKeyword]

/-- Whether characters are those of a text in some letter case. -/
def Spells (text : String) (cs : List Char) : Prop :=
  cs.map Char.toLower = text.toList.map Char.toLower

theorem Spells.map_toLower {cs : List Char} (h : Spells word cs) (hw : isKeyword word = true) :
    cs.map Char.toLower = word.toList := by
  have lower : word.toList.map Char.toLower = word.toList.map id :=
    List.map_congr_left fun c hc => toLower_of_isLower ((isKeyword_iff.1 hw).2 c hc)
  rw [h, lower, List.map_id]

/-- After a keyword in any letter case stands what follows it, and no other keyword is read. -/
theorem after?_spelled {written : List Char} (hk : isKeyword keyword = true)
    (hw : isKeyword word = true) (hgap : ∀ c ∈ gap, isGap c = true)
    (spelled : Spells word written) (stop : Stops rest) :
    after? keyword (gap ++ (written ++ rest)) = if keyword = word then some rest else none := by
  obtain ⟨nonempty, lower⟩ := isKeyword_iff.1 hw
  have hlower : ∀ c ∈ written, c.toLower.isLower = true := by
    intro c hc
    exact lower _ (spelled.map_toLower hw ▸ List.mem_map_of_mem hc)
  have hskip : skipGap (gap ++ (written ++ rest)) = written ++ rest := by
    rw [skipGap_append hgap]
    cases written with
    | nil => exact absurd (spelled.map_toLower hw).symm nonempty
    | cons c written => exact skipGap_cons (isGap_of_isLower (hlower c List.mem_cons_self)) _
  rw [after?, hskip, afterLetters?_spelled (isKeyword_iff.1 hk).2 hlower stop,
    spelled.map_toLower hw]
  simp only [String.toList_inj]

/-! ## Texts between quotes -/

def inQuotes (text : String) : List Char :=
  '"' :: (text.toList ++ ['"'])

variable {text : String}

theorem inQuotes_append (text : String) (rest : List Char) :
    inQuotes text ++ rest = '"' :: (text.toList ++ '"' :: rest) := by
  rw [inQuotes, List.cons_append, List.append_assoc, List.singleton_append]

theorem skipGap_inQuotes (hgap : ∀ c ∈ gap, isGap c = true) (text : String) (rest : List Char) :
    skipGap (gap ++ (inQuotes text ++ rest)) = inQuotes text ++ rest := by
  rw [skipGap_append hgap, inQuotes_append]
  exact skipGap_cons rfl _

theorem after?_inQuotes (hk : isKeyword keyword = true) (hgap : ∀ c ∈ gap, isGap c = true)
    (text : String) (rest : List Char) :
    after? keyword (gap ++ (inQuotes text ++ rest)) = none := by
  obtain ⟨nonempty, lower⟩ := isKeyword_iff.1 hk
  obtain ⟨letter, letters, hletters⟩ := List.exists_cons_of_ne_nil nonempty
  have hl : letter.isLower = true := lower letter (hletters ▸ List.mem_cons_self)
  have hq : isLetter letter '"' = false := isLetter_of_not_isLower hl (by decide) (by decide)
  rw [after?, skipGap_inQuotes hgap, inQuotes_append, hletters, afterLetters?, hq]
  rfl

theorem bareOrQuoted?_inQuotes (closed : '"' ∉ text.toList) (rest : List Char) :
    bareOrQuoted? (inQuotes text ++ rest) = some (text, rest) := by
  have inside : ∀ c ∈ text.toList, (c != '"') = true := by
    intro c hc
    rw [bne_iff_ne]
    rintro rfl
    exact closed hc
  have hopen (cs : List Char) : bareOrQuoted? ('"' :: cs) = quotedName? cs := rfl
  have hdrop : (text.toList ++ '"' :: rest).dropWhile (· != '"') = '"' :: rest :=
    List.dropWhile_append_of_pos inside
  have htake : (text.toList ++ '"' :: rest).takeWhile (· != '"') = text.toList := by
    rw [List.takeWhile_append_of_pos inside, List.takeWhile_cons_of_neg (by simp), List.append_nil]
  rw [inQuotes_append, hopen, quotedName?, hdrop, htake, String.ofList_toList]

theorem name?_inQuotes (hgap : ∀ c ∈ gap, isGap c = true) (closed : '"' ∉ text.toList)
    (rest : List Char) : name? (gap ++ (inQuotes text ++ rest)) = some (text, rest) := by
  rw [name?, skipGap_inQuotes hgap, bareOrQuoted?_inQuotes closed]

/-! ## Rows of texts -/

theorem items?_blank {blanks : List Char} (h : ∀ c ∈ blanks, isBlank c = true) :
    items? blanks = some [] := by
  have hend : trimStart blanks = [] := (trimStart_eq_nil_iff blanks).2 (List.all_eq_true.2 h)
  rw [items?]
  split
  · rfl
  · next hs =>
      rw [hend] at hs
      cases hs

theorem items?_inQuotes {blanks : List Char} (hb : ∀ c ∈ blanks, isBlank c = true)
    (closed : '"' ∉ text.toList) (rest : List Char) :
    items? (blanks ++ (inQuotes text ++ rest)) = (items? rest).map (text :: ·) := by
  have hstart : trimStart (blanks ++ (inQuotes text ++ rest)) = inQuotes text ++ rest := by
    rw [trimStart, List.dropWhile_append_of_pos hb, inQuotes_append]
    exact trimStart_cons_of_not_blank rfl
  have hread := bareOrQuoted?_inQuotes closed rest
  rw [items?]
  split
  · next hs =>
      rw [hstart] at hs
      cases hs
  · next hs =>
      split
      · next hr =>
          rw [← hs, hstart, hread] at hr
          cases hr
      · next hr =>
          rw [← hs, hstart, hread] at hr
          cases hr
          rfl

end Wordsheet.Command
