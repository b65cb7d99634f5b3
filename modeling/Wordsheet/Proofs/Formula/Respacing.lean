import Wordsheet.Proofs.Formula.Partition

/-! # Formulas with other blanks

Which blanks stand between the words of a formula, and how many, makes no difference: no token
reaches over a blank, and blanks are no tokens. Only the place that a strict lexer names for a text
that it refuses may be another one.
-/

namespace Wordsheet.Formula

open Text

variable {c : Char} {cs ds rest blanks : List Char}

/-! ## Blanks and tokens -/

theorem isBlank_of_startsToken (h : startsToken c = true) : isBlank c = false := by
  simp only [startsToken, Bool.or_eq_true, beq_iff_eq] at h
  rcases h with ((alpha | rfl) | digit) | sign
  · have letter := toNat_of_isAlpha alpha
    simp only [isBlank, Bool.or_eq_false_iff, Bool.and_eq_false_iff, decide_eq_false_iff_not,
      beq_eq_false_iff_ne]
    omega
  · rfl
  · exact isBlank_of_isDigit digit
  · have sign : c ∈ ['+', '-', '*', '/', '(', ')', ','] := List.contains_iff_mem.1 sign
    simp only [List.mem_cons, List.not_mem_nil, or_false] at sign
    rcases sign with rfl | rfl | rfl | rfl | rfl | rfl | rfl <;> rfl

theorem eq_point_of_joinsAt {t : Token} {k : Nat} (joins : t.JoinsAt k)
    (h : t.text.toList[k]? = some c) : c = '.' := by
  cases joins with
  | cell row column =>
      rw [toList_cellRef, List.getElem?_append_right (Nat.le_refl _), Nat.sub_self] at h
      exact (Option.some.inj h).symm
  | number digits =>
      rw [Token.number, String.toList_ofList, List.getElem?_append_right (Nat.le_refl _),
        Nat.sub_self] at h
      exact (Option.some.inj h).symm

theorem isBlank_of_mem_token {t : Token} (spelled : t.Spelled) (h : c ∈ t.text.toList) :
    isBlank c = false := by
  obtain ⟨k, hk⟩ := List.mem_iff_getElem?.1 h
  rcases startsToken_or_joinsAt spelled hk with starts | joins
  · exact isBlank_of_startsToken starts
  · rw [eq_point_of_joinsAt joins hk]
    rfl

/-- What stands behind a blank, or behind the end, has no part in the token at the head of a
text. -/
theorem token?_append_blank (nonempty : cs ≠ []) (breaks : ∀ b ∈ rest.head?, isBlank b = true) :
    token? (cs ++ rest) = (token? cs).map fun found => (found.1, found.2 ++ rest) := by
  obtain ⟨c, cs, rfl⟩ := List.exists_cons_of_ne_nil nonempty
  have starts := (token?_isSome c (cs ++ rest)).trans (token?_isSome c cs).symm
  rw [← List.cons_append] at starts
  cases h : token? (c :: cs) with
  | none =>
      rw [h] at starts
      rw [Option.isSome_none, Option.isSome_eq_false_iff, Option.isNone_iff_eq_none] at starts
      exact starts
  | some found =>
      obtain ⟨t, left⟩ := found
      rw [h] at starts
      obtain ⟨⟨u, right⟩, hu⟩ := Option.isSome_iff_exists.1 starts
      have whole := append_of_token? h
      have whole' := append_of_token? hu
      have spelled := spelled_of_token? h
      have spelled' := spelled_of_token? hu
      -- the token found in the longer text does not reach into what was added
      have inside : u.text.toList.length ≤ (c :: cs).length := by
        by_contra outside
        have hbehind : rest.head? = u.text.toList[(c :: cs).length]? := by
          rw [← List.getElem?_append_left (Nat.lt_of_not_le outside), whole',
            List.getElem?_append_right (Nat.le_refl _), Nat.sub_self, List.head?_eq_getElem?]
        rw [List.getElem?_eq_getElem (Nat.lt_of_not_le outside)] at hbehind
        have := breaks _ hbehind
        rw [isBlank_of_mem_token spelled' (List.getElem_mem _)] at this
        cases this
      have hprefix : t.text.toList <+: (c :: cs) ++ rest :=
        List.IsPrefix.trans ⟨left, whole⟩ (List.prefix_append ..)
      have hprefix' : u.text.toList <+: c :: cs :=
        List.prefix_of_prefix_length_le ⟨right, whole'⟩ (List.prefix_append ..) inside
      obtain ⟨_, _, ht, shorter⟩ := exists_longer_token spelled' hprefix'
      obtain ⟨_, _, hu', longer⟩ := exists_longer_token spelled hprefix
      cases h.symm.trans ht
      cases hu.symm.trans hu'
      have htext : u.text.toList = t.text.toList :=
        (List.prefix_of_prefix_length_le ⟨right, whole'⟩ hprefix shorter).eq_of_length
          (Nat.le_antisymm shorter longer)
      cases eq_of_text_eq spelled' spelled (String.toList_inj.1 htext)
      rw [← whole, List.append_assoc, List.append_cancel_left_eq] at whole'
      rw [hu, whole']
      rfl

theorem pieces_of_not_startsToken (h : startsToken c = false) (cs : List Char) :
    pieces (c :: cs) = .skipped c :: pieces cs := by
  rw [pieces]
  split
  · next found =>
      have := token?_isSome c cs
      rw [found, h] at this
      cases this
  · rfl

/-- A text is cut at its blanks before anything else. -/
theorem pieces_append_blank (breaks : ∀ b ∈ rest.head?, isBlank b = true) (cs : List Char) :
    pieces (cs ++ rest) = pieces cs ++ pieces rest := by
  fun_induction pieces cs with
  | case1 => rfl
  | case2 c cs t after taken ih =>
      have taken' := token?_append_blank (List.cons_ne_nil c cs) breaks
      rw [taken] at taken'
      rw [pieces_of_token? taken', ih]
      rfl
  | case3 c cs none ih =>
      have skipped := startsToken_of_token?_eq_none none
      rw [List.cons_append, pieces_of_not_startsToken skipped, ih]
      rfl

theorem pieces_blanks (blank : ∀ b ∈ blanks, isBlank b = true) (cs : List Char) :
    pieces (blanks ++ cs) = blanks.map .skipped ++ pieces cs := by
  induction blanks with
  | nil => rfl
  | cons b blanks ih =>
      obtain ⟨hb, blank⟩ := List.forall_mem_cons.1 blank
      have skipped : startsToken b = false := by
        rw [Bool.eq_false_iff]
        intro starts
        rw [isBlank_of_startsToken starts] at hb
        cases hb
      rw [List.cons_append, pieces_of_not_startsToken skipped, ih blank]
      rfl

/-! ## What a strict lexer refuses -/

/-- The text that a strict lexer refuses, wherever it stands. -/
def refusedRun? : List Piece → Option String
  | [] => none
  | .token _ :: rest => refusedRun? rest
  | .skipped c :: rest =>
      if isBlank c then refusedRun? rest else some (String.ofList (c :: skippedRun rest))

theorem map_fst_unexpected? (position : Nat) (found : List Piece) :
    (unexpected? position found).map (·.1) = refusedRun? found := by
  induction found generalizing position with
  | nil => rfl
  | cons piece rest ih =>
      cases piece with
      | token t => exact ih _
      | skipped c =>
          rw [unexpected?, refusedRun?]
          split
          · exact ih _
          · rfl

theorem skippedRun_append {more : List Piece} (stops : skippedRun more = []) (found : List Piece) :
    skippedRun (found ++ more) = skippedRun found := by
  induction found with
  | nil => exact stops
  | cons piece rest ih =>
      cases piece with
      | token t => rfl
      | skipped c => rw [List.cons_append, skippedRun, skippedRun, ih]

theorem refusedRun?_append {more : List Piece} (stops : skippedRun more = [])
    (found : List Piece) :
    refusedRun? (found ++ more) = (refusedRun? found).or (refusedRun? more) := by
  induction found with
  | nil => rfl
  | cons piece rest ih =>
      cases piece with
      | token t => exact ih
      | skipped c =>
          rw [List.cons_append, refusedRun?, refusedRun?, skippedRun_append stops]
          split
          · exact ih
          · rfl

theorem refusedRun?_blanks (blank : ∀ b ∈ blanks, isBlank b = true) (found : List Piece) :
    refusedRun? (blanks.map .skipped ++ found) = refusedRun? found := by
  induction blanks with
  | nil => rfl
  | cons b blanks ih =>
      obtain ⟨hb, blank⟩ := List.forall_mem_cons.1 blank
      rw [List.map_cons, List.cons_append, refusedRun?, if_pos hb, ih blank]

theorem skippedRun_pieces (breaks : ∀ b ∈ rest.head?, isBlank b = true) :
    skippedRun (pieces rest) = [] := by
  cases rest with
  | nil => rw [pieces]; rfl
  | cons b rest =>
      have hb : isBlank b = true := breaks b rfl
      have hpieces := @pieces_blanks [b] (by simpa using hb) rest
      rw [List.singleton_append] at hpieces
      rw [hpieces]
      exact if_pos hb

/-! ## Respaced texts -/

/-- Whether two texts differ in their blanks only: one has blanks between two words where the other
has. -/
inductive Respaced : List Char → List Char → Prop where
  | ends {cs ds : List Char} (blank : ∀ b ∈ cs, isBlank b = true)
      (blank' : ∀ b ∈ ds, isBlank b = true) : Respaced cs ds
  | char {c : Char} {cs ds : List Char} (h : isBlank c = false) (rest : Respaced cs ds) :
      Respaced (c :: cs) (c :: ds)
  | gap {blanks blanks' cs ds : List Char} (blank : ∀ b ∈ blanks, isBlank b = true)
      (blank' : ∀ b ∈ blanks', isBlank b = true) (nonempty : blanks ≠ [])
      (nonempty' : blanks' ≠ []) (rest : Respaced cs ds) : Respaced (blanks ++ cs) (blanks' ++ ds)

/-- What a lexer makes of a text, but for places. -/
def reading (cs : List Char) : List Token × Option String :=
  ((pieces cs).filterMap Piece.token?, refusedRun? (pieces cs))

theorem reading_append (breaks : ∀ b ∈ rest.head?, isBlank b = true) (cs : List Char) :
    reading (cs ++ rest) = ((reading cs).1 ++ (reading rest).1,
      (reading cs).2.or (reading rest).2) := by
  rw [reading, pieces_append_blank breaks, List.filterMap_append,
    refusedRun?_append (skippedRun_pieces breaks)]
  rfl

theorem reading_blanks (blank : ∀ b ∈ blanks, isBlank b = true) (cs : List Char) :
    reading (blanks ++ cs) = reading cs := by
  have none : (blanks.map Piece.skipped).filterMap Piece.token? = [] := by
    rw [List.filterMap_map]
    exact List.filterMap_eq_nil_iff.2 fun _ _ => rfl
  rw [reading, pieces_blanks blank, List.filterMap_append, refusedRun?_blanks blank, none]
  rfl

theorem reading_of_blank (blank : ∀ b ∈ blanks, isBlank b = true) :
    reading blanks = ([], none) := by
  have only := reading_blanks blank []
  rw [List.append_nil] at only
  rw [only, reading, pieces]
  rfl

theorem head?_append_blanks (blank : ∀ b ∈ blanks, isBlank b = true) (nonempty : blanks ≠ [])
    (cs : List Char) : ∀ b ∈ (blanks ++ cs).head?, isBlank b = true := by
  obtain ⟨b, blanks, rfl⟩ := List.exists_cons_of_ne_nil nonempty
  exact fun _ hb => Option.some.inj hb ▸ blank b List.mem_cons_self

/-- Texts that differ in their blanks only are read alike, whatever stands in front of them. -/
theorem Respaced.reading_eq (h : Respaced cs ds) (before : List Char) :
    reading (before ++ cs) = reading (before ++ ds) := by
  induction h generalizing before with
  | @ends cs ds blank blank' =>
      have only {blanks : List Char} (blank : ∀ b ∈ blanks, isBlank b = true) :
          reading (before ++ blanks) = reading before := by
        rw [reading_append (fun b hb => blank b (List.mem_of_mem_head? hb)),
          reading_of_blank blank]
        simp
      rw [only blank, only blank']
  | @char c _ _ _ _ ih =>
      have same := ih (before ++ [c])
      rwa [List.append_assoc, List.append_assoc] at same
  | gap blank blank' nonempty nonempty' _ ih =>
      have same := ih []
      rw [List.nil_append, List.nil_append] at same
      rw [reading_append (head?_append_blanks blank nonempty _),
        reading_append (head?_append_blanks blank' nonempty' _), reading_blanks blank,
        reading_blanks blank', same]

theorem Respaced.word {word : List Char} (h : Respaced cs ds)
    (plain : ∀ c ∈ word, isBlank c = false) : Respaced (word ++ cs) (word ++ ds) := by
  induction word with
  | nil => exact h
  | cons c word ih =>
      obtain ⟨hc, plain⟩ := List.forall_mem_cons.1 plain
      exact (ih plain).char hc

/-- A text without blanks stands at the head of both texts or of neither, and may be taken off. -/
theorem Respaced.drop {mark : List Char} (h : Respaced cs ds)
    (plain : ∀ c ∈ mark, isBlank c = false) :
    (mark <+: cs ↔ mark <+: ds) ∧
      (mark <+: cs → Respaced (cs.drop mark.length) (ds.drop mark.length)) := by
  induction mark generalizing cs ds with
  | nil => exact ⟨by simp, fun _ => h⟩
  | cons m mark ih =>
      obtain ⟨hm, plain⟩ := List.forall_mem_cons.1 plain
      have off {rest : List Char} (breaks : ∀ b ∈ rest.head?, isBlank b = true) :
          ¬ m :: mark <+: rest := by
        rintro ⟨more, rfl⟩
        rw [breaks m rfl] at hm
        cases hm
      have neither {rest rest' : List Char} (breaks : ∀ b ∈ rest.head?, isBlank b = true)
          (breaks' : ∀ b ∈ rest'.head?, isBlank b = true) :
          (m :: mark <+: rest ↔ m :: mark <+: rest') ∧
            (m :: mark <+: rest → Respaced (rest.drop (m :: mark).length)
              (rest'.drop (m :: mark).length)) :=
        ⟨iff_of_false (off breaks) (off breaks'), fun on => absurd on (off breaks)⟩
      cases h with
      | ends blank blank' =>
          exact neither (fun b hb => blank b (List.mem_of_mem_head? hb))
            fun b hb => blank' b (List.mem_of_mem_head? hb)
      | char _ rest =>
          obtain ⟨both, dropped⟩ := ih rest plain
          rw [List.cons_prefix_cons, List.cons_prefix_cons, both]
          exact ⟨Iff.rfl, fun on => dropped (both.2 on.2)⟩
      | gap blank blank' nonempty nonempty' _ =>
          exact neither (head?_append_blanks blank nonempty _)
            (head?_append_blanks blank' nonempty' _)

/-! ## Results -/

/-- An error, wherever in the text its cause is. -/
def Error.withoutPosition : Error → Error
  | .unexpectedCharacter run _ => .unexpectedCharacter run 0
  | cause => cause

def Failure.withoutPosition : Failure → Failure
  | .error cause => .error cause.withoutPosition
  | .fault cause => .fault cause

theorem code_withoutPosition (cause : Error) : cause.withoutPosition.code = cause.code := by
  cases cause <;> rfl

variable {text text' : String}

/-- What a lexer makes of a text decides the tokens, and whether and for what it is refused. -/
theorem tokenize_withoutPosition (strict : Bool) (text : String) :
    (tokenize strict text).mapError Error.withoutPosition =
      match if strict then (reading text.toList).2 else none with
      | some run => .error (.unexpectedCharacter run 0)
      | none => .ok (reading text.toList).1 := by
  cases strict with
  | false => rfl
  | true =>
      rw [tokenize, reading, ← map_fst_unexpected? 0]
      cases unexpected? 0 (pieces text.toList) with
      | none => rfl
      | some found => rfl

theorem tokenize_respaced (strict : Bool) (h : Respaced text.toList text'.toList) :
    (tokenize strict text).mapError Error.withoutPosition =
      (tokenize strict text').mapError Error.withoutPosition := by
  have same := h.reading_eq []
  rw [List.nil_append, List.nil_append] at same
  rw [tokenize_withoutPosition, tokenize_withoutPosition, same]

theorem evaluate_eq_error {engine : Engine} {cause : Error}
    (refused : engine.tokenize text = .error cause) (table : Option Table) :
    engine.evaluate text table = .error (.error cause) := by
  rw [Engine.evaluate, Engine.toPostfix, refused]
  rfl

theorem evaluate_withoutPosition (engine : Engine) (text : String) (table : Option Table) :
    (engine.evaluate text table).mapError Failure.withoutPosition =
      match (engine.tokenize text).mapError Error.withoutPosition with
      | .ok tokens => ((toPostfix engine.toVocabulary tokens).bind
          (evaluatePostfix ⟨engine.toVocabulary, table⟩)).mapError Failure.withoutPosition
      | .error cause => .error (.error cause) := by
  cases lexed : engine.tokenize text with
  | ok tokens =>
      rw [evaluate_eq lexed]
      rfl
  | error cause =>
      rw [evaluate_eq_error lexed]
      rfl

/-- Texts that differ in their blanks only have the same value or the same error, but for the place
of a character that a strict lexer refuses. -/
theorem evaluate_respaced (engine : Engine) (table : Option Table)
    (h : Respaced text.toList text'.toList) :
    (engine.evaluate text table).mapError Failure.withoutPosition =
      (engine.evaluate text' table).mapError Failure.withoutPosition := by
  have same : (engine.tokenize text).mapError Error.withoutPosition =
      (engine.tokenize text').mapError Error.withoutPosition := tokenize_respaced engine.strict h
  rw [evaluate_withoutPosition, evaluate_withoutPosition, same]

/-- To a lenient lexer blanks make no difference at all. -/
theorem evaluate_respaced_lenient {engine : Engine} (lenient : engine.strict = false)
    (table : Option Table) (h : Respaced text.toList text'.toList) :
    engine.evaluate text table = engine.evaluate text' table := by
  have same := h.reading_eq []
  rw [List.nil_append, List.nil_append] at same
  have lexed (text : String) : engine.tokenize text = .ok (reading text.toList).1 := by
    rw [Engine.tokenize, lenient]
    rfl
  rw [evaluate_eq (lexed text), evaluate_eq (lexed text'), same]

end Wordsheet.Formula
