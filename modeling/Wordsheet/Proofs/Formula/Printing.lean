import Wordsheet.Proofs.Formula.Respacing

/-! # Tokens written out

Tokens that are written out with blanks between them are lexed as the same tokens again, strictly or
not. So the tokens of a text, joined by single blanks, are a text with these tokens.
-/

namespace Wordsheet.Formula

open Text

/-! ## Texts of tokens -/

def writtenOut (before : List Char) : List (Token × List Char) → List Char
  | [] => before
  | (t, behind) :: rest => before ++ t.text.toList ++ writtenOut behind rest

/-- Whether there are blanks around tokens, and at least one between any two of them. -/
structure Spaced (before : List Char) (tokens : List (Token × List Char)) : Prop where
  blankBefore : ∀ b ∈ before, isBlank b = true
  blankBehind : ∀ p ∈ tokens, ∀ b ∈ p.2, isBlank b = true
  apart : ∀ p ∈ tokens.dropLast, p.2 ≠ []

section Writing

variable {before behind rest : List Char} {t : Token} {tokens : List (Token × List Char)}

theorem writtenOut_eq_append (before : List Char) (tokens : List (Token × List Char)) :
    writtenOut before tokens = before ++ writtenOut [] tokens := by
  cases tokens with
  | nil => exact (List.append_nil before).symm
  | cons p tokens => rw [writtenOut, writtenOut, List.nil_append, List.append_assoc]

theorem Spaced.tail (spaced : Spaced before ((t, behind) :: tokens)) : Spaced behind tokens where
  blankBefore := spaced.blankBehind _ List.mem_cons_self
  blankBehind p hp := spaced.blankBehind p (List.mem_cons_of_mem _ hp)
  apart p hp := by
    cases tokens with
    | nil => cases hp
    | cons q tokens => exact spaced.apart p (List.mem_cons_of_mem _ hp)

theorem Spaced.breaks (spaced : Spaced before ((t, behind) :: tokens)) :
    ∀ b ∈ (writtenOut behind tokens).head?, isBlank b = true := by
  have blank : ∀ b ∈ behind, isBlank b = true := spaced.tail.blankBefore
  cases tokens with
  | nil => exact fun b hb => blank b (List.mem_of_mem_head? hb)
  | cons q tokens =>
      have nonempty : behind ≠ [] := spaced.apart (t, behind) List.mem_cons_self
      rw [writtenOut_eq_append]
      exact head?_append_blanks blank nonempty _

/-- Spaced tokens stay so behind one more token and a blank. -/
theorem Spaced.cons (spaced : Spaced [] tokens) (t : Token) : Spaced [] ((t, [' ']) :: tokens) where
  blankBefore := List.forall_mem_nil _
  blankBehind := List.forall_mem_cons.2
    ⟨List.forall_mem_singleton.2 rfl, spaced.blankBehind⟩
  apart p hp := by
    cases tokens with
    | nil => cases hp
    | cons q tokens =>
        rcases List.mem_cons.1 hp with rfl | hp
        · exact List.cons_ne_nil _ _
        · exact spaced.apart p hp

end Writing

/-! ## Lexing what is written out -/

section Lexing

variable {before rest : List Char} {t : Token} {tokens : List (Token × List Char)} {text : String}

theorem ends_of_blank (breaks : ∀ b ∈ rest.head?, isBlank b = true) : Ends rest := by
  intro c hc
  have apart {starts : Bool} (h : starts = true → startsToken c = true) : starts = false := by
    cases hs : starts with
    | false => rfl
    | true =>
        have blank := breaks c hc
        rw [isBlank_of_startsToken (h hs)] at blank
        cases blank
  refine ⟨apart startsToken_of_continuesName, apart startsToken_of_isDigit, ?_⟩
  rintro rfl
  exact absurd (breaks '.' hc) (by decide)

theorem reading_token (spelled : t.Spelled) (ends : Ends rest) :
    reading (t.text.toList ++ rest) = (t :: (reading rest).1, (reading rest).2) := by
  rw [reading, pieces_of_token? (token?_append spelled ends)]
  rfl

theorem reading_writtenOut (spaced : Spaced before tokens) (spelled : ∀ p ∈ tokens, p.1.Spelled) :
    reading (writtenOut before tokens) = (tokens.map (·.1), none) := by
  induction tokens generalizing before with
  | nil =>
      rw [writtenOut, reading_of_blank spaced.blankBefore]
      rfl
  | cons p tokens ih =>
      obtain ⟨t, behind⟩ := p
      obtain ⟨ht, spelled⟩ := List.forall_mem_cons.1 spelled
      rw [writtenOut, List.append_assoc, reading_blanks spaced.blankBefore,
        reading_token ht (ends_of_blank spaced.breaks), ih spaced.tail spelled]
      rfl

/-- A text is lexed as the tokens that are read in it, unless a strict lexer refuses a part. -/
theorem tokenize_eq_ok_iff {found : List Token} (strict : Bool) (text : String) :
    tokenize strict text = .ok found ↔
      (reading text.toList).1 = found ∧ (strict = true → (reading text.toList).2 = none) := by
  cases strict with
  | false =>
      have lexed : tokenize false text = .ok (reading text.toList).1 := rfl
      simp [lexed]
  | true =>
      rw [tokenize, reading, ← map_fst_unexpected? 0]
      cases unexpected? 0 (pieces text.toList) with
      | none => simp
      | some refused => simp

/-- Tokens joined by blanks are written out with one blank between any two of them. -/
theorem exists_writtenOut_eq_intercalate (found : List Token) :
    ∃ tokens, tokens.map (·.1) = found ∧ Spaced [] tokens ∧
      String.ofList (writtenOut [] tokens) = " ".intercalate (found.map Token.text) := by
  induction found with
  | nil => exact ⟨[], rfl, ⟨nofun, nofun, nofun⟩, rfl⟩
  | cons t found ih =>
      obtain ⟨tokens, rfl, spaced, htext⟩ := ih
      cases tokens with
      | nil =>
          refine ⟨[(t, [])], rfl, ⟨nofun, List.forall_mem_singleton.2 nofun, nofun⟩, ?_⟩
          simp [writtenOut]
      | cons p tokens =>
          refine ⟨(t, [' ']) :: p :: tokens, rfl, spaced.cons t, ?_⟩
          rw [writtenOut, writtenOut_eq_append, List.map_cons,
            String.intercalate_cons_of_ne_nil (by simp), ← htext]
          simp [String.ofList_append, String.append_assoc]

end Lexing

/-- Lexing, strict or not, gives back the tokens that a text was written out from with blanks
between them. So the tokens of any text, joined by blanks, are the tokens of the text so made. -/
theorem tokenize_writtenOut :
    (∀ (strict : Bool) (before : List Char) (tokens : List (Token × List Char)),
      Spaced before tokens → (∀ p ∈ tokens, p.1.Spelled) →
        tokenize strict (String.ofList (writtenOut before tokens)) = .ok (tokens.map (·.1))) ∧
    ∀ text, ∃ tokens, tokenize false text = .ok tokens ∧
      (∀ others, tokenize true text = .ok others → others = tokens) ∧
      ∀ strict, tokenize strict (" ".intercalate (tokens.map Token.text)) = .ok tokens := by
  have back {before : List Char} {tokens : List (Token × List Char)}
      (spaced : Spaced before tokens) (spelled : ∀ p ∈ tokens, p.1.Spelled) (strict : Bool) :
      tokenize strict (String.ofList (writtenOut before tokens)) = .ok (tokens.map (·.1)) := by
    rw [tokenize_eq_ok_iff, String.toList_ofList, reading_writtenOut spaced spelled]
    exact ⟨rfl, fun _ => rfl⟩
  refine ⟨fun strict _ _ spaced spelled => back spaced spelled strict, fun text => ?_⟩
  have lexed : tokenize false text = .ok (reading text.toList).1 := rfl
  refine ⟨(reading text.toList).1, lexed, fun others strictly => ?_, fun strict => ?_⟩
  · exact ((tokenize_eq_ok_iff true text).1 strictly).1.symm
  · obtain ⟨tokens, hmap, spaced, htext⟩ :=
      exists_writtenOut_eq_intercalate (reading text.toList).1
    have spelled : ∀ p ∈ tokens, p.1.Spelled := fun p hp =>
      spelled_of_mem_tokenize lexed (hmap ▸ List.mem_map_of_mem hp)
    rw [← htext, back spaced spelled, hmap]

theorem tokenize_writtenOut_reference :
    let tokens : List (Token × List Char) :=
      [(.number "1.5", ['\t', ' ']), (Operator.multiply.token, [' ']), (.cellRef "r" "c", ['\n'])]
    Spaced [' '] tokens ∧ (∀ p ∈ tokens, p.1.Spelled) ∧
      String.ofList (writtenOut [' '] tokens) = " 1.5\t * r.c\n" ∧
      tokenize true " 1.5\t * r.c\n" =
        .ok [.number "1.5", Operator.multiply.token, .cellRef "r" "c"] := by
  intro tokens
  have number : (Token.number "1.5").Spelled :=
    @Token.Spelled.number ['1'] ['5'] (List.cons_ne_nil _ _) (List.forall_mem_singleton.2 rfl)
      (List.forall_mem_singleton.2 rfl)
  have spaced : Spaced [' '] tokens :=
    { blankBefore := List.forall_mem_singleton.2 rfl
      blankBehind := by simp [tokens, show isBlank '\t' = true from rfl,
        show isBlank ' ' = true from rfl, show isBlank '\n' = true from rfl]
      apart := by simp [tokens] }
  have spelled : ∀ p ∈ tokens, p.1.Spelled := by
    simp only [tokens, List.forall_mem_cons, List.not_mem_nil, false_implies, implies_true,
      and_true]
    exact ⟨number, .operator .multiply, .cell rfl rfl⟩
  have text : String.ofList (writtenOut [' '] tokens) = " 1.5\t * r.c\n" := by decide
  exact ⟨spaced, spelled, text, text ▸ tokenize_writtenOut.1 true [' '] tokens spaced spelled⟩

end Wordsheet.Formula
