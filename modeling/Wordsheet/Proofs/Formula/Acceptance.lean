import Wordsheet.Proofs.Formula.Meaning

/-! # Formulas that have a value

The engine checks that parentheses match and that one value is left, but not that the tokens come
in turn. A formula with a value is an infix expression exactly when they do.
-/

namespace Wordsheet.Formula

/-- Whether tokens are an infix expression in which every name that is no function is a constant. -/
def KnownInfix (known : Vocabulary) (tokens : List Token) : Prop :=
  ∃ tree, Derives known .sum tokens tree ∧
    ∀ t ∈ tree.operands, t.kind = .name → known.constants.has t.text = true

section Values

variable {engine : Engine} {table : Option Table} {text : String} {tokens : List Token}
  {value : Float}

theorem lexed_of_evaluate (h : engine.evaluate text table = .ok value) :
    ∃ tokens, engine.tokenize text = .ok tokens := by
  cases hl : engine.tokenize text with
  | ok tokens => exact ⟨tokens, rfl⟩
  | error cause =>
      rw [Engine.evaluate, Engine.toPostfix, hl] at h
      cases h

/-- What has a value closes its parentheses in order. -/
theorem depthAfter_of_evaluate (lexed : engine.tokenize text = .ok tokens)
    (h : engine.evaluate text table = .ok value) : depthAfter 0 tokens = some 0 := by
  have spelled : ∀ t ∈ tokens, t.Spelled := fun t ht => spelled_of_mem_tokenize lexed ht
  have settled : Settled (depthAfter 0 tokens) (postfixFrom engine.toVocabulary [] tokens) :=
    settled_postfixFrom spelled [] (List.forall_mem_nil _)
  rw [evaluate_eq lexed, toPostfix] at h
  cases hd : depthAfter 0 tokens with
  | none =>
      rw [hd] at settled
      rw [show postfixFrom _ [] tokens = _ from settled] at h
      cases h
  | some depth =>
      cases depth with
      | zero => rfl
      | succ depth =>
          rw [hd] at settled
          rw [show postfixFrom _ [] tokens = _ from settled] at h
          cases h

/-- The names among the operands of an expression with a value are constants. -/
theorem constant_of_evaluate {tree : Tree} (lexed : engine.tokenize text = .ok tokens)
    (derived : Derives engine.toVocabulary .sum tokens tree)
    (h : engine.evaluate text table = .ok value) {t : Token} (ht : t ∈ tree.operands)
    (named : t.kind = .name) : engine.constants.has t.text = true := by
  have spelled : ∀ t ∈ tokens, t.Spelled := fun t ht => spelled_of_mem_tokenize lexed ht
  have htree := @takeAll_code ⟨engine.toVocabulary, table⟩ _ _ _ derived spelled [] []
  rw [List.append_nil] at htree
  rw [evaluate_eq_code lexed derived, evaluatePostfix] at h
  rcases htree with ⟨resolved, _⟩ | ⟨cause, _, htake⟩
  · cases hc : engine.constants.has t.text with
    | true => rfl
    | false => exact absurd (.unknown named hc) (resolved t ht _)
  · rw [htake] at h
    cases h

/-- A formula with a value is an infix expression exactly when its tokens come in turn: an operand,
a function or an opening parenthesis where an operand is due, an opening parenthesis behind every
function, and an operator or a closing parenthesis behind every operand. -/
theorem knownInfix_iff_inTurn (engine : Engine) (table : Option Table) (text : String)
    (value : Float) (h : engine.evaluate text table = .ok value) :
    ∃ tokens, engine.tokenize text = .ok tokens ∧
      (KnownInfix engine.toVocabulary tokens ↔ engine.inTurn .operand tokens = true) := by
  obtain ⟨tokens, lexed⟩ := lexed_of_evaluate h
  refine ⟨tokens, lexed, ?_, ?_⟩
  · rintro ⟨tree, derived, _⟩
    have turns := inTurn_of_derives derived []
    rw [List.append_nil] at turns
    exact turns
  · intro turns
    have spelled : ∀ t ∈ tokens, t.Spelled := fun t ht => spelled_of_mem_tokenize lexed ht
    obtain ⟨tree, derived⟩ := infix_of_inTurn spelled turns (depthAfter_of_evaluate lexed h)
    exact ⟨tree, derived, fun t ht named => constant_of_evaluate lexed derived h ht named⟩

theorem knownInfix_iff_inTurn_sum :
    ∃ value, Engine.standard.evaluate "2 * (3 + pi)" none = .ok value ∧
      ∃ tokens, Engine.standard.tokenize "2 * (3 + pi)" = .ok tokens ∧
        (KnownInfix Engine.standard.toVocabulary tokens ↔
          Engine.standard.inTurn .operand tokens = true) := by
  have lexed : Engine.standard.tokenize "2 * (3 + pi)" =
      .ok [.number "2", Operator.multiply.token, .opening, .number "3", Operator.add.token,
        .name "pi", .closing] := by
    change tokenize false "2 * (3 + pi)" = _
    decide +kernel
  have h : ∃ value, Engine.standard.evaluate "2 * (3 + pi)" none = .ok value := by
    rw [evaluate_eq lexed]
    exact ⟨_, rfl⟩
  obtain ⟨value, hv⟩ := h
  exact ⟨value, hv, knownInfix_iff_inTurn Engine.standard none "2 * (3 + pi)" value hv⟩

/-- A function takes a number without parentheses, and an operator stands behind its numbers. -/
theorem not_knownInfix_of_evaluate :
    (∃ tokens, Engine.standard.tokenize "sqrt 4" = .ok tokens ∧
      (∃ value, Engine.standard.evaluate "sqrt 4" none = .ok value) ∧
        ¬KnownInfix Engine.standard.toVocabulary tokens) ∧
    ∃ tokens, Engine.standard.tokenize "1 2 +" = .ok tokens ∧
      (∃ value, Engine.standard.evaluate "1 2 +" none = .ok value) ∧
        ¬KnownInfix Engine.standard.toVocabulary tokens := by
  have outOfTurn {tokens : List Token}
      (h : Engine.standard.inTurn .operand (tokens ++ []) = false) :
      ¬KnownInfix Engine.standard.toVocabulary tokens := by
    rintro ⟨tree, derived, _⟩
    rw [inTurn_of_derives derived []] at h
    cases h
  constructor
  · have lexed : Engine.standard.tokenize "sqrt 4" = .ok [.name "sqrt", .number "4"] := by
      change tokenize false "sqrt 4" = _
      decide +kernel
    refine ⟨_, lexed, ?_, outOfTurn rfl⟩
    rw [evaluate_eq lexed]
    exact ⟨_, rfl⟩
  · have lexed : Engine.standard.tokenize "1 2 +" =
        .ok [.number "1", .number "2", Operator.add.token] := by
      change tokenize false "1 2 +" = _
      decide +kernel
    refine ⟨_, lexed, ?_, outOfTurn rfl⟩
    rw [evaluate_eq lexed]
    exact ⟨_, rfl⟩

end Values

end Wordsheet.Formula
