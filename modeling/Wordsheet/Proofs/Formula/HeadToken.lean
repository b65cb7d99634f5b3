import Wordsheet.Proofs.Formula.Reference

/-! # The token at the head of a text

Lexing takes the longest token that is spelled at the head of a text, and nothing exactly where no
token can start. Before a text that does not continue it every token is taken as it is, so no two
tokens are spelled alike.
-/

namespace Wordsheet.Formula

open Text

/-! ## A token and the rest -/

theorem append_of_splitName? {cs name rest : List Char}
    (h : splitName? cs = some (name, rest)) : name ++ rest = cs := by
  cases cs with
  | nil => cases h
  | cons c cs =>
      rw [splitName?] at h
      split at h
      · cases h
        rw [List.cons_append, List.takeWhile_append_dropWhile]
      · cases h

theorem append_splitFraction (cs : List Char) :
    (splitFraction cs).1 ++ (splitFraction cs).2 = cs := by
  unfold splitFraction
  split
  · next rest =>
      dsimp only
      split
      · rfl
      · rw [List.cons_append, List.takeWhile_append_dropWhile]
  · rfl

theorem append_of_splitNumber? {cs number rest : List Char}
    (h : splitNumber? cs = some (number, rest)) : number ++ rest = cs := by
  rw [splitNumber?] at h
  split at h
  · cases h
  · simp only [Option.some.injEq, Prod.mk.injEq] at h
    rw [← h.1, ← h.2, List.append_assoc, append_splitFraction, List.takeWhile_append_dropWhile]

theorem append_nameToken (name rest : List Char) :
    (nameToken name rest).1.text.toList ++ (nameToken name rest).2 = name ++ rest := by
  unfold nameToken
  dsimp only
  split
  · split
    · next column rest h =>
        simp [toList_cellRef, append_of_splitName? h]
    · simp
  · simp

/-- A token and the rest make up the text. -/
theorem append_of_token? {cs rest : List Char} {t : Token} (h : token? cs = some (t, rest)) :
    t.text.toList ++ rest = cs := by
  unfold token? at h
  split at h
  · next name after hn =>
      have whole := append_nameToken name after
      rw [Option.some.inj h] at whole
      exact whole.trans (append_of_splitName? hn)
  · split at h
    · next number after hn =>
        cases h
        rw [String.toList_ofList, append_of_splitNumber? hn]
    · split at h
      · cases h
      · next c after _ _ =>
          obtain ⟨kind, _, hk⟩ := Option.map_eq_some_iff.1 h
          cases hk
          rw [String.toList_ofList]
          rfl

/-! ## Where tokens start -/

/-- Whether a character can start a token: an ASCII letter, an underscore, a digit or a sign. -/
def startsToken (c : Char) : Bool :=
  c.isAlpha || c == '_' || isDigit c || ['+', '-', '*', '/', '(', ')', ','].contains c

theorem signKind?_isSome (c : Char) :
    (signKind? c).isSome = ['+', '-', '*', '/', '(', ')', ','].contains c := by
  unfold signKind?
  split <;> simp_all

theorem splitName?_isSome (c : Char) (rest : List Char) :
    (splitName? (c :: rest)).isSome = startsName c := by
  rw [splitName?]
  cases startsName c <;> rfl

theorem splitNumber?_isSome (c : Char) (rest : List Char) :
    (splitNumber? (c :: rest)).isSome = isDigit c := by
  rw [splitNumber?]
  cases hc : isDigit c <;> simp [hc]

/-- A token is found exactly where one can start. -/
theorem token?_isSome (c : Char) (rest : List Char) :
    (token? (c :: rest)).isSome = startsToken c := by
  have hname := splitName?_isSome c rest
  have hnumber := splitNumber?_isSome c rest
  have hsign := signKind?_isSome c
  rw [startsToken, ← hnumber, ← hsign, show (c.isAlpha || c == '_') = startsName c from rfl,
    ← hname]
  unfold token?
  cases splitName? (c :: rest) with
  | some found => rfl
  | none => cases splitNumber? (c :: rest) <;> simp

theorem startsToken_of_token?_eq_none {c : Char} {rest : List Char}
    (none : token? (c :: rest) = none) : startsToken c = false := by
  rw [← token?_isSome c rest, none, Option.isSome_none]

/-! ## Each sort of token -/

theorem startsName_of_isDigit {c : Char} (h : isDigit c = true) : startsName c = false := by
  rw [Bool.eq_false_iff]
  intro starts
  simp only [startsName, Bool.or_eq_true, beq_iff_eq] at starts
  rcases starts with alpha | rfl
  · have digit := toNat_of_isDigit h
    have letter := toNat_of_isAlpha alpha
    omega
  · exact absurd h (by decide)

theorem token?_of_splitName? {cs name rest : List Char}
    (h : splitName? cs = some (name, rest)) : token? cs = some (nameToken name rest) := by
  simp only [token?, h]

theorem token?_of_splitNumber? {cs number rest : List Char}
    (h : splitNumber? cs = some (number, rest)) :
    token? cs = some (.number (String.ofList number), rest) := by
  cases cs with
  | nil => cases h
  | cons c cs =>
      have hd : isDigit c = true := by rw [← splitNumber?_isSome c cs, h]; rfl
      have hname : splitName? (c :: cs) = none := by
        rw [← Option.not_isSome_iff_eq_none, splitName?_isSome, startsName_of_isDigit hd]
        exact Bool.false_ne_true
      simp only [token?, hname, h]
      rfl

theorem token?_of_signKind? {c : Char} {kind : Kind} (h : signKind? c = some kind)
    (rest : List Char) :
    token? (c :: rest) = some (⟨kind, String.ofList [c], none, none⟩, rest) := by
  unfold signKind? at h
  split at h <;> cases h <;> rfl

/-- A name, a point and what starts with a name give a cell reference. -/
theorem token?_cellRef {row : String} {after column rest : List Char} (named : isName row = true)
    (h : splitName? after = some (column, rest)) :
    token? (row.toList ++ '.' :: after) = some (.cellRef row (String.ofList column), rest) := by
  have first : splitName? (row.toList ++ '.' :: after) = some (row.toList, '.' :: after) :=
    splitName?_append named fun c hc => Option.some.inj hc ▸ (by decide)
  rw [token?_of_splitName? first]
  simp only [nameToken, h, String.ofList_toList]

theorem splitNumber?_append {whole rest : List Char} (nonempty : whole ≠ [])
    (digits : ∀ c ∈ whole, isDigit c = true) (stop : rest.takeWhile isDigit = []) :
    splitNumber? (whole ++ rest) =
      some (whole ++ (splitFraction rest).1, (splitFraction rest).2) := by
  have hsplit := splitDigits_append digits stop
  rw [Numeral.splitDigits, Prod.mk.injEq] at hsplit
  simp [splitNumber?, hsplit.1, hsplit.2, nonempty]

theorem splitFraction_point {fraction : List Char} (nonempty : fraction ≠ [])
    (digits : ∀ c ∈ fraction, isDigit c = true) (rest : List Char) :
    splitFraction ('.' :: (fraction ++ rest)) =
      ('.' :: (fraction ++ rest.takeWhile isDigit), rest.dropWhile isDigit) := by
  rw [splitFraction, List.takeWhile_append_of_pos digits, List.dropWhile_append_of_pos digits]
  simp [nonempty]

/-! ## The longest token -/

theorem length_le_takeWhile {p : Char → Bool} {xs cs : List Char} (h : ∀ c ∈ xs, p c = true)
    (hp : xs <+: cs) : xs.length ≤ (cs.takeWhile p).length := by
  obtain ⟨tail, rfl⟩ := hp
  rw [List.takeWhile_append_of_pos h, List.length_append]
  exact Nat.le_add_right ..

/-- What is split off as a name is as long as any name there. -/
theorem exists_longer_name {s : String} (named : isName s = true) {cs : List Char}
    (h : s.toList <+: cs) :
    ∃ name rest, splitName? cs = some (name, rest) ∧ s.toList.length ≤ name.length := by
  rw [isName] at named
  cases hs : s.toList with
  | nil =>
      rw [hs] at named
      cases named
  | cons c tail =>
      rw [hs] at named h
      obtain ⟨starts, continues⟩ := Bool.and_eq_true_iff.1 named
      obtain ⟨behind, rfl⟩ := h
      have longer := length_le_takeWhile (List.all_eq_true.1 continues)
        (List.prefix_append tail behind)
      exact ⟨_, _, if_pos starts, by simpa using longer⟩

theorem exists_longer_number {whole fraction cs : List Char} (nonempty : whole ≠ [])
    (wholeDigits : ∀ c ∈ whole, isDigit c = true)
    (fractionDigits : ∀ c ∈ fraction, isDigit c = true)
    (h : whole ++ behindPoint fraction <+: cs) :
    ∃ number rest, splitNumber? cs = some (number, rest) ∧
      (whole ++ behindPoint fraction).length ≤ number.length := by
  obtain ⟨behind, rfl⟩ := h
  cases fraction with
  | nil =>
      have longer := length_le_takeWhile wholeDigits (List.prefix_append whole behind)
      have pos := List.length_pos_iff.2 nonempty
      have some : ¬((whole ++ behind).takeWhile isDigit).isEmpty = true := by
        rw [List.isEmpty_iff, ← List.length_eq_zero_iff]
        omega
      rw [behindPoint_nil, List.append_nil]
      refine ⟨_, _, if_neg some, ?_⟩
      rw [List.length_append]
      omega
  | cons f fs =>
      have stop : ('.' :: (f :: fs ++ behind)).takeWhile isDigit = [] := by simp [isDigit_point]
      have split := splitNumber?_append nonempty wholeDigits stop
      rw [splitFraction_point (by simp) fractionDigits] at split
      refine ⟨_, _, by simpa [behindPoint] using split, ?_⟩
      simp [behindPoint]

theorem length_le_nameToken (name rest : List Char) :
    name.length ≤ (nameToken name rest).1.text.toList.length := by
  have whole := congrArg List.length (append_nameToken name rest)
  have left := nameToken_length name rest
  rw [List.length_append, List.length_append] at whole
  omega

/-- No token that is spelled at the head of a text is longer than the one that is taken there. -/
theorem exists_longer_token {u : Token} (spelled : u.Spelled) {cs : List Char}
    (h : u.text.toList <+: cs) :
    ∃ t rest, token? cs = some (t, rest) ∧ u.text.toList.length ≤ t.text.toList.length := by
  have sign {kind : Kind} {c : Char} (hk : signKind? c = some kind) (hp : [c] <+: cs) :
      ∃ t rest, token? cs = some (t, rest) ∧ 1 ≤ t.text.toList.length := by
    obtain ⟨rest, rfl⟩ := hp
    exact ⟨_, _, token?_of_signKind? hk rest, by simp⟩
  cases spelled with
  | number nonempty whole fraction =>
      rw [Token.number, String.toList_ofList] at h ⊢
      obtain ⟨number, rest, hn, longer⟩ := exists_longer_number nonempty whole fraction h
      exact ⟨_, _, token?_of_splitNumber? hn, by simpa [Token.number] using longer⟩
  | @cell row column hrow hcolumn =>
      obtain ⟨behind, rfl⟩ := h
      obtain ⟨name, rest, hn, longer⟩ :=
        exists_longer_name hcolumn (List.prefix_append column.toList behind)
      refine ⟨.cellRef row (String.ofList name), rest, ?_, ?_⟩
      · rw [toList_cellRef, List.append_assoc]
        exact token?_cellRef hrow hn
      · simpa [toList_cellRef] using longer
  | @name text named =>
      obtain ⟨name, rest, hn, longer⟩ := exists_longer_name named h
      exact ⟨_, _, token?_of_splitName? hn, longer.trans (length_le_nameToken name rest)⟩
  | operator op => cases op <;> exact sign rfl h
  | opening | closing | comma => exact sign rfl h

/-! ## Tokens before other text -/

def Ends (rest : List Char) : Prop :=
  ∀ c ∈ rest.head?, continuesName c = false ∧ isDigit c = false ∧ c ≠ '.'

section Ending

variable {rest : List Char}

theorem Ends.takeWhile (ends : Ends rest) :
    rest.takeWhile isDigit = [] ∧ rest.dropWhile isDigit = rest := by
  cases rest with
  | nil => exact ⟨rfl, rfl⟩
  | cons c rest => simp [(ends c rfl).2.1]

theorem Ends.splitFraction (ends : Ends rest) : splitFraction rest = ([], rest) := by
  unfold Formula.splitFraction
  split
  · next after => exact absurd rfl (ends '.' rfl).2.2
  · rfl

theorem Ends.splitNumber? {whole fraction : List Char} (ends : Ends rest) (nonempty : whole ≠ [])
    (wholeDigits : ∀ c ∈ whole, isDigit c = true)
    (fractionDigits : ∀ c ∈ fraction, isDigit c = true) :
    splitNumber? (whole ++ (behindPoint fraction ++ rest)) =
      some (whole ++ behindPoint fraction, rest) := by
  obtain ⟨htake, hdrop⟩ := ends.takeWhile
  cases fraction with
  | nil =>
      have hsplit := splitNumber?_append nonempty wholeDigits htake
      rw [ends.splitFraction] at hsplit
      exact hsplit
  | cons f fs =>
      have stop : ('.' :: (f :: fs ++ rest)).takeWhile isDigit = [] := by simp [isDigit_point]
      have hsplit := splitNumber?_append nonempty wholeDigits stop
      rw [splitFraction_point (by simp) fractionDigits, htake, hdrop, List.append_nil] at hsplit
      exact hsplit

theorem Ends.nameToken (ends : Ends rest) (name : List Char) :
    nameToken name rest = (.name (String.ofList name), rest) := by
  unfold Formula.nameToken
  split
  · next after => exact absurd rfl (ends '.' rfl).2.2
  · rfl

/-- A token is found before a text that does not continue it. -/
theorem token?_append {t : Token} (spelled : t.Spelled) (ends : Ends rest) :
    token? (t.text.toList ++ rest) = some (t, rest) := by
  have stops : ∀ c ∈ rest.head?, continuesName c = false := fun c hc => (ends c hc).1
  cases spelled with
  | number nonempty whole fraction =>
      rw [Token.number, String.toList_ofList, List.append_assoc]
      exact token?_of_splitNumber? (ends.splitNumber? nonempty whole fraction)
  | @cell row column hrow hcolumn =>
      have taken := token?_cellRef hrow (splitName?_append hcolumn stops)
      rw [String.ofList_toList] at taken
      rwa [toList_cellRef, List.append_assoc]
  | @name text named =>
      have taken := token?_of_splitName? (splitName?_append named stops)
      rw [ends.nameToken, String.ofList_toList] at taken
      exact taken
  | operator op => cases op <;> exact token?_of_signKind? rfl rest
  | opening | closing | comma => exact token?_of_signKind? rfl rest

/-- No two tokens are spelled alike. -/
theorem eq_of_text_eq {t u : Token} (ht : t.Spelled) (hu : u.Spelled) (h : t.text = u.text) :
    t = u := by
  have first := @token?_append [] t ht nofun
  have second := @token?_append [] u hu nofun
  rw [h, second] at first
  cases first
  rfl

end Ending

end Wordsheet.Formula
