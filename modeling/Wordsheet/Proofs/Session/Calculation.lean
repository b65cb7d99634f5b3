import Wordsheet.Proofs.Command.BareWords
import Wordsheet.Proofs.Formula.Respacing
import Wordsheet.Proofs.Session.Notices
import Wordsheet.Proofs.Session.StoredValue

/-! # Lines that calculate

A line that asks for the value of a formula is cut into words, and the words are joined with single
spaces. The session answers as it would if the formula were evaluated as it was written.
-/

namespace Wordsheet

open Text Formula

/-! ## The formula of a line -/

namespace Command

variable {cs : List Char} {text : String}

theorem isBare_of_unquoted {c : Char} (unquoted : '"' ∉ cs) (h : c ∈ cs)
    (plain : isBlank c = false) : isBare c = true := by
  have hne : c ≠ '"' := by
    rintro rfl
    exact unquoted h
  simp [isBare, plain, hne]

/-- A text without quotes that does not start with a blank starts with a word, and there is a blank
behind it or nothing. -/
theorem exists_bareOrQuoted? {c : Char} (unquoted : '"' ∉ c :: cs) (plain : isBlank c = false) :
    ∃ word after, bareOrQuoted? (c :: cs) = some (String.ofList word, after) ∧
      c :: cs = word ++ after ∧ (∀ d ∈ word, isBlank d = false) ∧ Apart after := by
  have hc := isBare_of_unquoted unquoted List.mem_cons_self plain
  refine ⟨_, _, bareOrQuoted?_cons_of_isBare hc cs, ?_, ?_, ?_⟩
  · rw [List.cons_append, List.takeWhile_append_dropWhile]
  · refine List.forall_mem_cons.2 ⟨plain, fun d hd => not_isBlank_of_isBare ?_⟩
    exact List.mem_takeWhile_imp hd
  · intro d hd
    have stops : isBare d = false := by
      have := List.head?_dropWhile_not isBare cs
      rwa [Option.mem_def.1 hd] at this
    have hmem : d ∈ cs := (List.dropWhile_sublist _).mem (List.mem_of_mem_head? hd)
    cases hb : isBlank d with
    | true => rfl
    | false =>
        rw [isBare_of_unquoted unquoted (List.mem_cons_of_mem c hmem) hb] at stops
        cases stops

/-- A word may be joined to words that are the text behind it with other blanks. -/
theorem respaced_intercalate {word after : List Char} {words : List String}
    (plain : ∀ d ∈ word, isBlank d = false) (apart : Apart after)
    (none : words = [] ↔ trimStart after = [])
    (respaced : Respaced (trimStart after) (String.intercalate " " words).toList) :
    Respaced (word ++ after) (String.intercalate " " (String.ofList word :: words)).toList := by
  cases words with
  | nil =>
      have blank : ∀ b ∈ after, isBlank b = true :=
        List.all_eq_true.1 ((trimStart_eq_nil_iff after).1 (none.1 rfl))
      have alone := (Respaced.ends blank (List.forall_mem_nil _)).word plain
      rw [List.append_nil] at alone
      rwa [String.intercalate_singleton, String.toList_ofList]
  | cons next words =>
      have gap : after.takeWhile isBlank ≠ [] := by
        cases after with
        | nil => exact absurd (none.2 rfl) (List.cons_ne_nil next words)
        | cons b after => simp [apart b rfl]
      have joined := respaced.gap (fun b hb => List.mem_takeWhile_imp hb)
        (List.forall_mem_singleton.2 (rfl : isBlank ' ' = true)) gap (List.cons_ne_nil ' ' [])
      rw [trimStart, List.takeWhile_append_dropWhile] at joined
      have := joined.word plain
      simpa [String.intercalate_cons_cons] using this

/-- The words of a text without quotes, joined again, are the text with other blanks. -/
theorem exists_items?_respaced (unquoted : '"' ∉ cs) :
    ∃ words, items? cs = some words ∧ (words = [] ↔ trimStart cs = []) ∧
      Respaced (trimStart cs) (String.intercalate " " words).toList := by
  have head {c : Char} {left : List Char} {cs : List Char} (unquoted : '"' ∉ cs)
      (hs : trimStart cs = c :: left) : '"' ∉ c :: left ∧ isBlank c = false := by
    have suffix := List.dropWhile_suffix (l := cs) isBlank
    have stops := List.head?_dropWhile_not isBlank cs
    rw [show cs.dropWhile isBlank = c :: left from hs] at stops suffix
    exact ⟨fun hq => unquoted (suffix.mem hq), by simpa using stops⟩
  fun_induction items? cs with
  | case1 cs hs => exact ⟨[], rfl, iff_of_true rfl hs,
      hs ▸ .ends (List.forall_mem_nil _) (List.forall_mem_nil _)⟩
  | case2 cs c left hs hread =>
      obtain ⟨unquoted, plain⟩ := head unquoted hs
      obtain ⟨word, after, hword, _⟩ := exists_bareOrQuoted? unquoted plain
      cases hread.symm.trans hword
  | case3 cs c left hs item after hread ih =>
      obtain ⟨unquoted, plain⟩ := head unquoted hs
      obtain ⟨word, after, hfound, hword, plainWord, apart⟩ := exists_bareOrQuoted? unquoted plain
      cases hread.symm.trans hfound
      obtain ⟨words, hwords, none, respaced⟩ :=
        ih fun hq => unquoted (hword ▸ List.mem_append_right word hq)
      refine ⟨String.ofList word :: words, by rw [hwords]; rfl, ?_, ?_⟩
      · rw [hs]
        exact iff_of_false (List.cons_ne_nil _ _) (List.cons_ne_nil _ _)
      · rw [hs, hword]
        exact respaced_intercalate plainWord apart none respaced

/-- A line that asks for the value of a formula is read as one, with other blanks. -/
theorem exists_parse?_calculate (starts : ∃ c ∈ text.toList.head?, isBlank c = false)
    (unquoted : '"' ∉ text.toList) (one_line : '\n' ∉ text.toList) :
    ∃ expression, parse? ("calc " ++ text) = some (.calculate expression) ∧
      Respaced text.toList expression.toList := by
  obtain ⟨c, hc, plain⟩ := starts
  obtain ⟨cs, htext⟩ : ∃ cs, text.toList = c :: cs := List.head?_eq_some_iff.1 hc
  have hline : ("calc " ++ text).toList = "calc".toList ++ ' ' :: text.toList := by
    rw [String.toList_append]
    rfl
  have known : ("calc", readCalculate) ∈ readers := by simp [readers]
  have hrest : ∀ d ∈ cs, (d != '\n') = true := by
    intro d hd
    rw [bne_iff_ne]
    rintro rfl
    exact one_line (htext ▸ List.mem_cons_of_mem c hd)
  have hremainder : remainder? (' ' :: text.toList) = some text.toList := by
    have hskip : skipGap (' ' :: c :: cs) = c :: cs :=
      (skipGap_append (List.forall_mem_singleton.2 rfl) _).trans
        (skipGap_cons (not_isGap_of_not_isBlank plain) cs)
    have hdrop : cs.dropWhile (· != '\n') = [] := List.dropWhile_eq_nil_iff.2 hrest
    have htake : cs.takeWhile (· != '\n') = cs := List.takeWhile_eq_self_iff.2 hrest
    rw [htext, remainder?, hskip]
    simp [plain, hdrop, htake]
  obtain ⟨words, hwords, _, respaced⟩ := exists_items?_respaced unquoted
  rw [htext, trimStart_cons_of_not_blank plain, ← htext] at respaced
  refine ⟨_, ?_, respaced⟩
  have stops : Stops (' ' :: text.toList) := fun d hd => Option.some.inj hd ▸ rfl
  rw [parse?_of_known known rfl stops hline, readCalculate, lastText?, lastItems?, hremainder,
    Option.bind_some, hwords]
  rfl

end Command

/-! ## Its value -/

namespace Session

variable {text text' : String}

/-- The mark of a formula is found and taken off whatever blanks the formula has. -/
theorem respaced_afterMark? {mark : String} (plain : ∀ c ∈ mark.toList, isBlank c = false)
    (h : Respaced text.toList text'.toList) :
    Respaced ((afterMark? mark text).getD text).toList
      ((afterMark? mark text').getD text').toList := by
  obtain ⟨both, dropped⟩ := h.drop plain
  simp only [afterMark?, List.isPrefixOf_iff_prefix]
  by_cases on : mark.toList <+: text.toList
  · rw [if_pos on, if_pos (both.1 on)]
    rw [String.length_toList] at dropped
    simpa using dropped on
  · rw [if_neg on, if_neg fun on' => on (both.2 on')]
    exact h

theorem eq_ok_of_mapError {ε ε' α : Type} {result : Except ε α} {f : ε → ε'} {value : α}
    (h : result.mapError f = .ok value) : result = .ok value := by
  cases result with
  | ok found => exact congrArg Except.ok (Except.ok.inj h)
  | error cause => cases h

theorem exists_error_of_mapError {ε ε' α : Type} {result : Except ε α} {f : ε → ε'} {told : ε'}
    (h : result.mapError f = .error told) : ∃ cause, result = .error cause ∧ f cause = told := by
  cases result with
  | ok found => cases h
  | error cause => exact ⟨cause, rfl, Except.error.inj h⟩

/-- A line that asks for the value of a formula is answered with the value of the formula as it is
written, or with its error; a strict lexer may find the character that it refuses at another place.
The session stays as it is. -/
theorem runLine_calculate (s : Session) (starts : ∃ c ∈ text.toList.head?, isBlank c = false)
    (unquoted : '"' ∉ text.toList) (one_line : '\n' ∉ text.toList)
    (plain : ∀ c ∈ s.settings.marker.toList, isBlank c = false) :
    let result := s.engine.evaluate ((afterMark? s.settings.marker text).getD text)
      s.workbook.activeTable?
    let answer := s.runLine ("calc " ++ text)
    answer.session = s ∧
      ((∃ value, result = .ok value ∧ answer.reply = .ok ⟨true, plainText value, none⟩) ∨
        ∃ cause told, result = .error (.error cause) ∧
          answer.reply = .ok ⟨false, s!"Formula error: {told.message}", none⟩ ∧
          answer.notice.bind (·.code) = some told.code ∧
          told.code = cause.code ∧ told.withoutPosition = cause.withoutPosition ∧
          (s.engine.strict = false → told = cause)) := by
  intro result answer
  obtain ⟨expression, hparse, respaced⟩ :=
    Command.exists_parse?_calculate starts unquoted one_line
  have hanswer : answer = s.calculate expression := by
    simp only [answer, runLine, hparse, execute]
  have respaced := respaced_afterMark? plain respaced
  have same := evaluate_respaced s.engine s.workbook.activeTable? respaced
  have lenient (h : s.engine.strict = false) :=
    evaluate_respaced_lenient h s.workbook.activeTable? respaced
  rcases evaluate_value_or_raises s.engine s.workbook.activeTable?
      ((afterMark? s.settings.marker expression).getD expression) with
    ⟨value, hvalue⟩ | ⟨told, _, htold⟩
  · rw [hvalue] at same
    refine ⟨?_, .inl ⟨value, eq_ok_of_mapError same, ?_⟩⟩
    · rw [hanswer, calculate, withValue, hvalue]
      rfl
    · rw [hanswer, calculate_of_value rfl hvalue]
  · rw [htold] at same lenient
    obtain ⟨failure, hresult, alike⟩ := exists_error_of_mapError same
    cases failure with
    | fault cause => cases alike
    | error cause =>
        have position := (Failure.error.inj alike).symm
        refine ⟨?_, .inr ⟨cause, told, hresult, ?_, ?_, ?_, position, fun h => ?_⟩⟩
        · rw [hanswer, calculate, withValue, htold]
          rfl
        · rw [hanswer, calculate_of_error rfl htold]
        · rw [hanswer, calculate, notice_withValue_of_error htold]
          rfl
        · rw [← code_withoutPosition, position, code_withoutPosition]
        · cases hresult.symm.trans (lenient h)
          rfl

theorem runLine_calculate_marked :
    let s := besideOne .defaults
    ∃ value, s.engine.evaluate " 2\t*  pi" s.workbook.activeTable? = .ok value ∧
      (s.runLine ("calc " ++ "= 2\t*  pi")).reply = .ok ⟨true, plainText value, none⟩ := by
  intro s
  have mark : s.settings.marker = "=" := by decide
  have plain : ∀ c ∈ s.settings.marker.toList, isBlank c = false := by
    rw [mark]
    exact List.forall_mem_singleton.2 rfl
  have stripped : (afterMark? s.settings.marker "= 2\t*  pi").getD "= 2\t*  pi" =
      " 2\t*  pi" := by
    decide
  have lexed : s.engine.tokenize " 2\t*  pi" =
      .ok [.number "2", Operator.multiply.token, .name "pi"] := by
    change tokenize false " 2\t*  pi" = _
    decide +kernel
  have calculated := (@runLine_calculate "= 2\t*  pi" s ⟨'=', rfl, rfl⟩ (by simp) (by simp)
    plain).2
  rw [stripped] at calculated
  rcases calculated with answered | ⟨cause, _, failed, _⟩
  · exact answered
  · have found : ∃ value, s.engine.evaluate " 2\t*  pi" s.workbook.activeTable? = .ok value := by
      rw [evaluate_eq lexed]
      exact ⟨_, rfl⟩
    obtain ⟨value, hvalue⟩ := found
    cases hvalue.symm.trans failed

end Session

end Wordsheet
