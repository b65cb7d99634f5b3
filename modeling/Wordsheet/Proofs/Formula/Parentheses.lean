import Wordsheet.Formula.Engine
import Wordsheet.Proofs.Formula.Conversion

/-! # The parentheses of a formula

Whether the tokens of a text can be put in postfix order is decided by their parentheses alone: they
have to be balanced. If they are not, the error tells whether one is closed that is not open or one
is left open, and nothing around the parentheses has a part in that.
-/

namespace Wordsheet.Formula

/-! ## Counting parentheses -/

def parentheses (tokens : List Token) : List Token :=
  tokens.filter fun t => t.kind = .opening || t.kind = .closing

def closings (tokens : List Token) : Nat :=
  tokens.countP fun t => t.kind = .closing

section Depth

variable {t : Token} {tokens : List Token} {depth : Nat}

theorem openings_cons_of_ne (h : t.kind ≠ .opening) (rest : List Token) :
    openings (t :: rest) = openings rest :=
  List.countP_cons_of_neg (by simpa [Token.isOpening] using h)

theorem closings_closing (rest : List Token) :
    closings (.closing :: rest) = closings rest + 1 :=
  List.countP_cons_of_pos rfl

theorem closings_cons_of_ne (h : t.kind ≠ .closing) (rest : List Token) :
    closings (t :: rest) = closings rest :=
  List.countP_cons_of_neg (by simpa using h)

theorem depthAfter_parentheses (tokens : List Token) (depth : Nat) :
    depthAfter depth (parentheses tokens) = depthAfter depth tokens := by
  induction tokens generalizing depth with
  | nil => rfl
  | cons t rest ih =>
      rw [parentheses] at ih ⊢
      cases hk : t.kind <;> simp [depthAfter, hk, ih]

theorem opening_or_closing (spelled : ∀ t ∈ tokens, t.Spelled) (h : t ∈ parentheses tokens) :
    t = .opening ∨ t = .closing := by
  obtain ⟨ht, kind⟩ := List.mem_filter.1 h
  cases spelled t ht with
  | opening => exact .inl rfl
  | closing => exact .inr rfl
  | number | cell | name | operator | comma => cases kind

theorem exists_prefix_cons {P : List Token → Prop} :
    (∃ before, before <+: t :: tokens ∧ P before) ↔
      P [] ∨ ∃ before, before <+: tokens ∧ P (t :: before) := by
  simp only [List.prefix_cons_iff]
  constructor
  · rintro ⟨before, rfl | ⟨rest, rfl, hr⟩, holds⟩
    · exact .inl holds
    · exact .inr ⟨rest, hr, holds⟩
  · rintro (holds | ⟨before, hb, holds⟩)
    · exact ⟨[], .inl rfl, holds⟩
    · exact ⟨t :: before, .inr ⟨before, rfl, hb⟩, holds⟩

/-- There is no depth exactly if some first tokens close more parentheses than are open. -/
theorem depthAfter_eq_none_iff (parens : ∀ t ∈ tokens, t = .opening ∨ t = .closing) :
    depthAfter depth tokens = none ↔
      ∃ before, before <+: tokens ∧ depth + openings before < closings before := by
  induction tokens generalizing depth with
  | nil => simp [depthAfter, openings, closings]
  | cons t rest ih =>
      rw [exists_prefix_cons]
      obtain ⟨rfl | rfl, within⟩ := List.forall_mem_cons.1 parens
      · rw [depthAfter_opening, ih within]
        simp only [openings_opening, closings_cons_of_ne (t := .opening) (by decide)]
        simp [openings, closings, Nat.add_right_comm, Nat.add_assoc]
      · cases depth with
        | zero =>
            simp only [depthAfter_closing_zero, closings_closing,
              openings_cons_of_ne (t := .closing) (by decide), true_iff]
            exact .inr ⟨[], List.nil_prefix, by decide⟩
        | succ depth =>
            rw [depthAfter_closing_succ, ih within]
            simp only [closings_closing, openings_cons_of_ne (t := .closing) (by decide)]
            simp [openings, closings, Nat.add_right_comm]

theorem depthAfter_eq_some {left : Nat} (parens : ∀ t ∈ tokens, t = .opening ∨ t = .closing)
    (h : depthAfter depth tokens = some left) :
    left + closings tokens = depth + openings tokens := by
  induction tokens generalizing depth with
  | nil =>
      cases h
      rfl
  | cons t rest ih =>
      obtain ⟨rfl | rfl, within⟩ := List.forall_mem_cons.1 parens
      · have := ih within h
        rw [openings_opening, closings_cons_of_ne (by decide)]
        omega
      · cases depth with
        | zero => cases h
        | succ depth =>
            have := ih within h
            rw [closings_closing, openings_cons_of_ne (by decide)]
            omega

end Depth

/-! ## Balanced parentheses -/

/-- Parentheses in pairs: none, or a pair with pairs inside it and behind it. -/
inductive Balanced : List Token → Prop where
  | nil : Balanced []
  | pair {inner after : List Token} (inside : Balanced inner) (behind : Balanced after) :
      Balanced (.opening :: (inner ++ .closing :: after))

section Balance

variable {tokens : List Token} {depth : Nat}

theorem depthAfter_balanced (balanced : Balanced tokens) (depth : Nat) (rest : List Token) :
    depthAfter depth (tokens ++ rest) = depthAfter depth rest := by
  induction balanced generalizing depth rest with
  | nil => rfl
  | @pair inner after _ _ ihInside ihBehind =>
      rw [List.cons_append, List.append_assoc, List.cons_append, depthAfter_opening, ihInside,
        depthAfter_closing_succ, ihBehind]

/-- What closes one parenthesis too many at its end is balanced up to where it closes that one. -/
theorem balanced_of_depthAfter_succ (tokens : List Token) (depth : Nat)
    (parens : ∀ t ∈ tokens, t = .opening ∨ t = .closing)
    (h : depthAfter (depth + 1) tokens = some 0) :
    ∃ inner after, tokens = inner ++ .closing :: after ∧ Balanced inner ∧
      depthAfter depth after = some 0 := by
  match tokens with
  | [] => cases h
  | t :: rest =>
      obtain ⟨rfl | rfl, within⟩ := List.forall_mem_cons.1 parens
      · obtain ⟨inner, behind, rfl, inside, hbehind⟩ :=
          balanced_of_depthAfter_succ rest (depth + 1) within h
        obtain ⟨second, after, rfl, between, hafter⟩ :=
          balanced_of_depthAfter_succ behind depth (fun u hu => within u (by simp [hu])) hbehind
        exact ⟨.opening :: (inner ++ .closing :: second), after, by simp, .pair inside between,
          hafter⟩
      · exact ⟨[], rest, rfl, .nil, h⟩
termination_by tokens.length

theorem balanced_of_depthAfter (tokens : List Token)
    (parens : ∀ t ∈ tokens, t = .opening ∨ t = .closing) (h : depthAfter 0 tokens = some 0) :
    Balanced tokens := by
  match tokens with
  | [] => exact .nil
  | t :: rest =>
      obtain ⟨rfl | rfl, within⟩ := List.forall_mem_cons.1 parens
      · obtain ⟨inner, after, rfl, inside, hafter⟩ := balanced_of_depthAfter_succ rest 0 within h
        exact .pair inside
          (balanced_of_depthAfter after (fun u hu => within u (by simp [hu])) hafter)
      · cases h
termination_by tokens.length

theorem balanced_iff_depthAfter (parens : ∀ t ∈ tokens, t = .opening ∨ t = .closing) :
    Balanced tokens ↔ depthAfter 0 tokens = some 0 := by
  refine ⟨fun balanced => ?_, balanced_of_depthAfter tokens parens⟩
  rw [← List.append_nil tokens, depthAfter_balanced balanced]
  rfl

end Balance

/-! ## Errors -/

/-- Whether tokens cannot be put in postfix order for their parentheses, with a message. -/
def Mismatched (known : Vocabulary) (tokens : List Token) (message : String) : Prop :=
  ∃ cause, toPostfix known tokens = .error (.error cause) ∧
    cause.code = "mismatched_parentheses" ∧ cause.message = message

section Errors

variable {known : Vocabulary} {tokens : List Token}

theorem mismatched_iff (spelled : ∀ t ∈ tokens, t.Spelled) (message : String) :
    Mismatched known tokens message ↔
      depthAfter 0 (parentheses tokens) = none ∧ message = Error.unexpectedClosing.message ∨
        (∃ depth, depthAfter 0 (parentheses tokens) = some (depth + 1)) ∧
          message = Error.unclosedOpening.message := by
  have settled : Settled (depthAfter 0 tokens) (toPostfix known tokens) :=
    settled_postfixFrom spelled [] (List.forall_mem_nil _)
  rw [depthAfter_parentheses]
  -- an error is a mismatch exactly with its own message
  have only {cause : Error} (hconv : toPostfix known tokens = .error (.error cause))
      (hcode : cause.code = "mismatched_parentheses") :
      Mismatched known tokens message ↔ message = cause.message := by
    constructor
    · rintro ⟨cause', h, _, rfl⟩
      cases hconv.symm.trans h
      rfl
    · rintro rfl
      exact ⟨cause, hconv, hcode, rfl⟩
  match hd : depthAfter 0 tokens, settled with
  | none, hconv =>
      rw [only hconv rfl]
      simp
  | some 0, ⟨order, hconv⟩ => simp [Mismatched, hconv]
  | some (depth + 1), hconv =>
      rw [only hconv rfl]
      simp

theorem converted_iff_balanced (spelled : ∀ t ∈ tokens, t.Spelled) :
    (∃ order, toPostfix known tokens = .ok order) ↔ Balanced (parentheses tokens) := by
  have settled : Settled (depthAfter 0 tokens) (toPostfix known tokens) :=
    settled_postfixFrom spelled [] (List.forall_mem_nil _)
  rw [balanced_iff_depthAfter fun t ht => opening_or_closing spelled ht, depthAfter_parentheses]
  match hd : depthAfter 0 tokens, settled with
  | none, hconv | some (depth + 1), hconv =>
      simp [show toPostfix known tokens = _ from hconv]
  | some 0, ⟨order, hconv⟩ => simp [hconv]

theorem mismatched_iff_not_balanced (spelled : ∀ t ∈ tokens, t.Spelled) :
    (∃ message, Mismatched known tokens message) ↔ ¬ Balanced (parentheses tokens) := by
  rw [balanced_iff_depthAfter fun t ht => opening_or_closing spelled ht]
  simp only [mismatched_iff spelled]
  rcases hd : depthAfter 0 (parentheses tokens) with _ | _ | depth <;> simp

theorem message_unexpectedClosing_ne :
    Error.unexpectedClosing.message ≠ Error.unclosedOpening.message := by
  decide

theorem mismatched_unexpected_iff (spelled : ∀ t ∈ tokens, t.Spelled) :
    Mismatched known tokens Error.unexpectedClosing.message ↔
      ∃ before, before <+: parentheses tokens ∧ openings before < closings before := by
  have closed := @depthAfter_eq_none_iff _ 0 fun t ht => opening_or_closing spelled ht
  simp only [Nat.zero_add] at closed
  rw [mismatched_iff spelled, ← closed]
  simp [message_unexpectedClosing_ne]

theorem mismatched_unclosed_iff (spelled : ∀ t ∈ tokens, t.Spelled) :
    Mismatched known tokens Error.unclosedOpening.message ↔
      (∀ before, before <+: parentheses tokens → closings before ≤ openings before) ∧
        closings (parentheses tokens) < openings (parentheses tokens) := by
  have parens : ∀ t ∈ parentheses tokens, t = .opening ∨ t = .closing := fun t ht =>
    opening_or_closing spelled ht
  have closed := not_congr (@depthAfter_eq_none_iff _ 0 parens)
  simp only [Nat.zero_add, not_exists, not_and, Nat.not_lt] at closed
  rw [mismatched_iff spelled, ← closed]
  cases hd : depthAfter 0 (parentheses tokens) with
  | none => simp [message_unexpectedClosing_ne.symm]
  | some left =>
      have counted := depthAfter_eq_some parens hd
      have more : (∃ depth, left = depth + 1) ↔
          closings (parentheses tokens) < openings (parentheses tokens) := by
        refine ⟨fun ⟨depth, _⟩ => by omega, fun _ => ⟨left - 1, by omega⟩⟩
      simp [more]

/-- The tokens of a text can be put in postfix order exactly if their parentheses are balanced. If
not, the message tells whether some first of them close one that is not open, or else whether more
are opened than closed. All tokens with the same parentheses fail alike, whatever the vocabulary. -/
theorem mismatched_iff_parentheses (known : Vocabulary) {strict : Bool} {text : String}
    {tokens : List Token} (lexed : tokenize strict text = .ok tokens) :
    ((∃ order, toPostfix known tokens = .ok order) ↔ Balanced (parentheses tokens)) ∧
      ((∃ message, Mismatched known tokens message) ↔ ¬ Balanced (parentheses tokens)) ∧
      (Mismatched known tokens "Mismatched parentheses: unexpected ')'" ↔
        ∃ before, before <+: parentheses tokens ∧ openings before < closings before) ∧
      (Mismatched known tokens "Mismatched parentheses: unclosed '('" ↔
        (∀ before, before <+: parentheses tokens → closings before ≤ openings before) ∧
          closings (parentheses tokens) < openings (parentheses tokens)) ∧
      ∀ (other : Vocabulary) (strict' : Bool) (text' : String) (tokens' : List Token),
        tokenize strict' text' = .ok tokens' → parentheses tokens' = parentheses tokens →
          ∀ message, Mismatched other tokens' message ↔ Mismatched known tokens message := by
  have spelled : ∀ t ∈ tokens, t.Spelled := fun t ht => spelled_of_mem_tokenize lexed ht
  refine ⟨converted_iff_balanced spelled, mismatched_iff_not_balanced spelled,
    mismatched_unexpected_iff spelled, mismatched_unclosed_iff spelled, ?_⟩
  intro other strict' text' tokens' lexed' same message
  have spelled' : ∀ t ∈ tokens', t.Spelled := fun t ht => spelled_of_mem_tokenize lexed' ht
  rw [mismatched_iff spelled, mismatched_iff spelled', same]

theorem mismatched_iff_parentheses_comma :
    tokenize true "sqrt(1, 2)) * (" = .ok [.name "sqrt", .opening, .number "1", .comma,
        .number "2", .closing, .closing, Operator.multiply.token, .opening] ∧
      Mismatched Engine.standard.toVocabulary [.name "sqrt", .opening, .number "1", .comma,
        .number "2", .closing, .closing, Operator.multiply.token, .opening]
        "Mismatched parentheses: unexpected ')'" := by
  have lexed : tokenize true "sqrt(1, 2)) * (" = .ok [.name "sqrt", .opening, .number "1", .comma,
      .number "2", .closing, .closing, Operator.multiply.token, .opening] := by
    decide +kernel
  have tooMany := mismatched_iff_parentheses Engine.standard.toVocabulary lexed
  exact ⟨lexed, tooMany.2.2.1.2 ⟨[.opening, .closing, .closing], by decide, by decide⟩⟩

end Errors

end Wordsheet.Formula
