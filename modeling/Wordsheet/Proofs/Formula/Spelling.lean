import Wordsheet.Decimal.Numeral
import Wordsheet.Formula.Lexer

/-! # How the tokens of a text are spelled

Lexing gives tokens of seven spellings and no others. A number among them is some
digits and perhaps a point with more digits behind it, so it can always be read;
the marks of constants and functions are never given by the lexer.
-/

namespace Wordsheet.Formula

open Text

/-! ## Spellings -/

def Token.number (digits : String) : Token :=
  ⟨.number, digits, none, none⟩

def Token.name (text : String) : Token :=
  ⟨.name, text, none, none⟩

def Operator.token (op : Operator) : Token :=
  ⟨.operator, op.text, none, none⟩

def Token.opening : Token :=
  ⟨.opening, "(", none, none⟩

def Token.closing : Token :=
  ⟨.closing, ")", none, none⟩

def Token.comma : Token :=
  ⟨.comma, ",", none, none⟩

def behindPoint (fraction : List Char) : List Char :=
  if fraction.isEmpty then [] else '.' :: fraction

@[simp] theorem behindPoint_nil : behindPoint [] = [] := rfl

theorem toList_cellRef (row column : String) :
    (Token.cellRef row column).text.toList = row.toList ++ '.' :: column.toList := by
  simp [Token.cellRef, String.toList_append]

/-- The tokens that a text can give. -/
inductive Token.Spelled : Token → Prop where
  | number {whole fraction : List Char} (nonempty : whole ≠ [])
      (wholeDigits : ∀ c ∈ whole, isDigit c = true)
      (fractionDigits : ∀ c ∈ fraction, isDigit c = true) :
      Spelled (.number (String.ofList (whole ++ behindPoint fraction)))
  | cell {row column : String} (rowName : isName row = true) (columnName : isName column = true) :
      Spelled (.cellRef row column)
  | name {text : String} (named : isName text = true) : Spelled (.name text)
  | operator (op : Operator) : Spelled op.token
  | opening : Spelled .opening
  | closing : Spelled .closing
  | comma : Spelled .comma

/-! ## The parts of a token -/

theorem isName_of_splitName? {cs name rest : List Char} (h : splitName? cs = some (name, rest)) :
    isName (String.ofList name) = true := by
  cases cs with
  | nil => simp [splitName?] at h
  | cons c cs =>
      simp only [splitName?] at h
      split at h <;> try contradiction
      next hc =>
        simp only [Option.some.injEq, Prod.mk.injEq] at h
        rw [← h.1]
        simp [isName, hc]

theorem mem_takeWhile_isDigit {c : Char} {cs : List Char} (h : c ∈ cs.takeWhile isDigit) :
    isDigit c = true :=
  List.all_eq_true.1 List.all_takeWhile c h

theorem splitFraction_fst (cs : List Char) :
    ∃ fraction, (splitFraction cs).1 = behindPoint fraction ∧
      ∀ c ∈ fraction, isDigit c = true := by
  unfold splitFraction
  split
  · next rest =>
      refine ⟨rest.takeWhile isDigit, ?_, fun _ => mem_takeWhile_isDigit⟩
      cases hd : (rest.takeWhile isDigit).isEmpty <;> simp [behindPoint, hd]
  · exact ⟨[], rfl, by simp⟩

theorem spelled_of_splitNumber? {cs number rest : List Char}
    (h : splitNumber? cs = some (number, rest)) :
    (Token.number (String.ofList number)).Spelled := by
  simp only [splitNumber?] at h
  split at h <;> try contradiction
  next hw =>
    simp only [Option.some.injEq, Prod.mk.injEq] at h
    obtain ⟨fraction, hf, digits⟩ := splitFraction_fst (cs.dropWhile isDigit)
    rw [← h.1, hf]
    exact .number (by simpa using hw) (fun _ => mem_takeWhile_isDigit) digits

theorem spelled_of_nameToken {name : List Char} (rest : List Char)
    (h : isName (String.ofList name) = true) : (nameToken name rest).1.Spelled := by
  unfold nameToken
  simp only []
  split
  · split
    · next hc => exact .cell h (isName_of_splitName? hc)
    · exact .name h
  · exact .name h

theorem spelled_of_signKind? {c : Char} {kind : Kind} (h : signKind? c = some kind) :
    Token.Spelled ⟨kind, String.ofList [c], none, none⟩ := by
  unfold signKind? at h
  split at h <;> simp only [Option.some.injEq, reduceCtorEq] at h <;> subst h
  · exact .operator .add
  · exact .operator .subtract
  · exact .operator .multiply
  · exact .operator .divide
  · exact .opening
  · exact .closing
  · exact .comma

/-! ## The tokens of a text -/

theorem spelled_of_token? {cs rest : List Char} {t : Token} (h : token? cs = some (t, rest)) :
    t.Spelled := by
  unfold token? at h
  split at h
  · next name after hn =>
      have := spelled_of_nameToken after (isName_of_splitName? hn)
      simp only [Option.some.injEq] at h
      rwa [h] at this
  · split at h
    · next hn =>
        simp only [Option.some.injEq, Prod.mk.injEq] at h
        rw [← h.1]
        exact spelled_of_splitNumber? hn
    · split at h <;> try contradiction
      obtain ⟨kind, hk, ht⟩ := Option.map_eq_some_iff.1 h
      simp only [Prod.mk.injEq] at ht
      rw [← ht.1]
      exact spelled_of_signKind? hk

theorem spelled_of_mem_pieces {cs : List Char} {t : Token} (h : .token t ∈ pieces cs) :
    t.Spelled := by
  fun_induction pieces cs with
  | case1 => simp at h
  | case2 c rest taken after found ih =>
      rcases List.mem_cons.1 h with he | hr
      · cases he
        exact spelled_of_token? found
      · exact ih hr
  | case3 c rest found ih =>
      rcases List.mem_cons.1 h with he | hr
      · cases he
      · exact ih hr

theorem spelled_of_mem_tokenize {strict : Bool} {text : String} {tokens : List Token}
    (lexed : tokenize strict text = .ok tokens) {t : Token} (h : t ∈ tokens) : t.Spelled := by
  simp only [tokenize] at lexed
  split at lexed <;> cases lexed
  obtain ⟨piece, hp, ht⟩ := List.mem_filterMap.1 h
  cases piece with
  | skipped c => cases ht
  | token t' =>
      cases ht
      exact spelled_of_mem_pieces hp

/-! ## Reading the numbers -/

theorem digitValue?_plain {c : Char} (h : c.isDigit = true) :
    digitValue? c = some (c.toNat - 48) := by
  simp only [Char.isDigit, Bool.and_eq_true, decide_eq_true_eq] at h
  have hlow : 48 ≤ c.toNat := h.1
  have hhigh : c.toNat ≤ 57 := h.2
  simp only [digitValue?]
  rw [if_pos (by omega), if_pos (by simp; omega)]

theorem isDigit_plain {c : Char} (h : c.isDigit = true) : isDigit c = true := by
  rw [isDigit, digitValue?_plain h]
  rfl

theorem zeros_not_blank (origin : Nat) (ho : origin ∈ zeros) (d : Nat) (hd : d < 10) :
    isBlank (Char.ofNat (origin + d)) = false := by
  revert d
  revert origin
  decide

theorem isBlank_of_isDigit {c : Char} (h : isDigit c = true) : isBlank c = false := by
  unfold isDigit digitValue? at h
  simp only [] at h
  split at h
  · split at h <;> try contradiction
    next hr =>
      simp only [Bool.and_eq_true, decide_eq_true_eq] at hr
      simp only [isBlank, Bool.or_eq_false_iff, Bool.and_eq_false_iff, decide_eq_false_iff_not,
        beq_eq_false_iff_ne]
      omega
  · rw [Option.isSome_map] at h
    obtain ⟨origin, ho⟩ := Option.isSome_iff_exists.1 h
    have hr := List.find?_some ho
    simp only [Bool.and_eq_true, decide_eq_true_eq] at hr
    have hb := zeros_not_blank origin (List.mem_of_find?_eq_some ho) (c.toNat - origin) (by omega)
    rwa [show origin + (c.toNat - origin) = c.toNat by omega, Char.ofNat_toNat] at hb

def inNumber (c : Char) : Bool :=
  isDigit c || c == '.'

theorem isMargin_of_inNumber {c : Char} (h : inNumber c = true) : Numeral.isMargin c = false := by
  simp only [inNumber, Bool.or_eq_true, beq_iff_eq] at h
  rcases h with hd | rfl
  · simp [Numeral.isMargin, isBlank_of_isDigit hd]
  · decide

theorem ne_underscore_of_inNumber {c : Char} (h : inNumber c = true) : c ≠ '_' := by
  rintro rfl
  revert h
  decide

theorem withoutMargins_eq_self {cs : List Char} (h : ∀ c ∈ cs, Numeral.isMargin c = false) :
    Numeral.withoutMargins cs = cs := by
  have keeps (ds : List Char) (hs : ∀ c ∈ ds, Numeral.isMargin c = false) :
      ds.dropWhile Numeral.isMargin = ds := by
    cases ds with
    | nil => rfl
    | cons d ds => simp [hs d List.mem_cons_self]
  rw [Numeral.withoutMargins, keeps cs h, keeps cs.reverse (by simpa using h), List.reverse_reverse]

theorem underscoresBetweenDigits_of_none {cs : List Char} (h : ∀ c ∈ cs, c ≠ '_')
    (afterDigit : Bool) : Numeral.underscoresBetweenDigits afterDigit cs = true := by
  induction cs generalizing afterDigit with
  | nil => rfl
  | cons c cs ih =>
      have hc := h c List.mem_cons_self
      have hr := ih (fun d hd => h d (List.mem_cons_of_mem c hd)) (isDigit c)
      unfold Numeral.underscoresBetweenDigits
      split
      · rfl
      · next he => exact absurd (List.cons.inj he).1 hc
      · next he =>
          obtain ⟨rfl, rfl⟩ := List.cons.inj he
          exact hr

/-- An ASCII digit stands below the letters, and every other digit above them. -/
theorem toNat_of_isDigit {c : Char} (h : isDigit c = true) : c.toNat < 58 ∨ 128 ≤ c.toNat := by
  unfold isDigit digitValue? at h
  simp only [] at h
  split at h
  · split at h <;> try contradiction
    next hr =>
      simp only [Bool.and_eq_true, decide_eq_true_eq] at hr
      omega
  · omega

theorem toNat_of_isAlpha {c : Char} (h : c.isAlpha = true) :
    (65 ≤ c.toNat ∧ c.toNat ≤ 90) ∨ (97 ≤ c.toNat ∧ c.toNat ≤ 122) := by
  rcases (Bool.or_eq_true_iff ..).1 h with upper | lower
  · obtain ⟨low, high⟩ := of_decide_eq_true upper
    exact .inl ⟨UInt32.le_iff_toNat_le.1 low, UInt32.le_iff_toNat_le.1 high⟩
  · obtain ⟨low, high⟩ := (Bool.and_eq_true_iff ..).1 lower
    exact .inr ⟨UInt32.le_iff_toNat_le.1 (of_decide_eq_true low),
      UInt32.le_iff_toNat_le.1 (of_decide_eq_true high)⟩

theorem toLower_of_isDigit {c : Char} (h : isDigit c = true) : c.toLower = c := by
  have hn := toNat_of_isDigit h
  unfold Char.toLower
  rw [dif_neg]
  simp only [ge_iff_le, UInt32.le_iff_toNat_le]
  change ¬(65 ≤ c.toNat ∧ c.toNat ≤ 90)
  omega

theorem isDigit_point : isDigit '.' = false := by
  decide

theorem splitDigits_append {whole rest : List Char} (digits : ∀ c ∈ whole, isDigit c = true)
    (stop : rest.takeWhile isDigit = []) :
    Numeral.splitDigits (whole ++ rest) = (whole, rest) := by
  have hd : rest.dropWhile isDigit = rest := by
    have := List.takeWhile_append_dropWhile (p := isDigit) (l := rest)
    rwa [stop, List.nil_append] at this
  rw [Numeral.splitDigits, List.takeWhile_append_of_pos digits, List.dropWhile_append_of_pos digits,
    stop, hd, List.append_nil]

theorem splitFraction_behindPoint {fraction : List Char}
    (digits : ∀ c ∈ fraction, isDigit c = true) :
    Numeral.splitFraction (behindPoint fraction) = (fraction, []) := by
  cases fraction with
  | nil => rfl
  | cons c cs =>
      have hs : Numeral.splitDigits (c :: cs ++ []) = (c :: cs, []) := splitDigits_append digits rfl
      simpa [behindPoint, Numeral.splitFraction] using hs

/-- A text that starts with a digit is none of the words that stand for doubles. -/
theorem unsigned?_number {whole fraction : List Char} (nonempty : whole ≠ [])
    (wholeDigits : ∀ c ∈ whole, isDigit c = true)
    (fractionDigits : ∀ c ∈ fraction, isDigit c = true) :
    Numeral.unsigned? (whole ++ behindPoint fraction) =
      some (.finite (Numeral.ofDigits whole fraction 0)) := by
  have hsplit : Numeral.splitDigits (whole ++ behindPoint fraction) =
      (whole, behindPoint fraction) := by
    apply splitDigits_append wholeDigits
    cases fraction <;> simp [behindPoint, isDigit_point]
  obtain ⟨c, cs, rfl⟩ := List.exists_cons_of_ne_nil nonempty
  have hc := wholeDigits c List.mem_cons_self
  have hn := toNat_of_isDigit hc
  have differs (d : Char) (hd : 58 ≤ d.toNat ∧ d.toNat < 128) : c ≠ d := by
    rintro rfl
    omega
  have hi := differs 'i' (by decide)
  have hw := differs 'n' (by decide)
  rw [List.cons_append] at hsplit ⊢
  simp [Numeral.unsigned?, toLower_of_isDigit hc, hi, hw, hsplit,
    splitFraction_behindPoint fractionDigits, Numeral.power?]

theorem splitSign_of_isDigit {c : Char} (h : isDigit c = true) (cs : List Char) :
    Numeral.splitSign (c :: cs) = (false, c :: cs) := by
  unfold Numeral.splitSign
  split
  · next he =>
      rw [(List.cons.inj he).1] at h
      exact absurd h (by decide)
  · next he =>
      rw [(List.cons.inj he).1] at h
      exact absurd h (by decide)
  · rfl

theorem inNumber_of_mem {whole fraction : List Char} (wholeDigits : ∀ c ∈ whole, isDigit c = true)
    (fractionDigits : ∀ c ∈ fraction, isDigit c = true) :
    ∀ c ∈ whole ++ behindPoint fraction, inNumber c = true := by
  intro c hc
  rcases List.mem_append.1 hc with hw | hf
  · simp [inNumber, wholeDigits c hw]
  · unfold behindPoint at hf
    split at hf
    · cases hf
    · rcases List.mem_cons.1 hf with rfl | hf
      · rfl
      · simp [inNumber, fractionDigits c hf]

/-- Text without blanks and underscores is read as it stands. -/
theorem parse?_of_plain {cs : List Char} (plain : ∀ c ∈ cs, Numeral.isMargin c = false ∧ c ≠ '_') :
    Numeral.parse? (String.ofList cs) =
      (Numeral.unsigned? (Numeral.splitSign cs).2).map fun numeral =>
        if (Numeral.splitSign cs).1 then numeral.negate else numeral := by
  have hfilter : cs.filter (· != '_') = cs :=
    List.filter_eq_self.2 fun c hc => bne_iff_ne.2 (plain c hc).2
  simp only [Numeral.parse?, String.toList_ofList,
    withoutMargins_eq_self fun c hc => (plain c hc).1,
    underscoresBetweenDigits_of_none fun c hc => (plain c hc).2, hfilter, if_true]

/-- Every number of a formula can be read, and as the number that its digits spell. -/
theorem parse?_number {whole fraction : List Char} (nonempty : whole ≠ [])
    (wholeDigits : ∀ c ∈ whole, isDigit c = true)
    (fractionDigits : ∀ c ∈ fraction, isDigit c = true) :
    Numeral.parse? (String.ofList (whole ++ behindPoint fraction)) =
      some (.finite (Numeral.ofDigits whole fraction 0)) := by
  have hread := unsigned?_number nonempty wholeDigits fractionDigits
  have hin := inNumber_of_mem wholeDigits fractionDigits
  obtain ⟨c, cs, rfl⟩ := List.exists_cons_of_ne_nil nonempty
  have hsign := splitSign_of_isDigit (wholeDigits c List.mem_cons_self) (cs ++ behindPoint fraction)
  rw [← List.cons_append] at hsign
  rw [parse?_of_plain fun c hc =>
    ⟨isMargin_of_inNumber (hin c hc), ne_underscore_of_inNumber (hin c hc)⟩, hsign, hread]
  rfl

end Wordsheet.Formula
