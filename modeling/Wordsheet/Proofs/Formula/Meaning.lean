import Wordsheet.Formula.Engine
import Wordsheet.Proofs.Formula.Conversion
import Wordsheet.Proofs.Table.Lookup

/-! # The value of an infix expression

An expression has a value by recursion on its tree once all its operands have one. The engine
finds that value, or the error of the leftmost operand without one, and no other error.
-/

namespace Wordsheet.Formula

/-! ## Operands -/

/-- What an operand stands for, or why it stands for nothing. -/
def operand? (scope : Scope) (t : Token) : Except Error Float :=
  match t.kind with
  | .number => .ok ((Numeral.parse? t.text).elim 0 Numeral.toFloat)
  | .cell => cellValue scope.table t
  | _ =>
      match scope.constants.value? t.text with
      | some value => .ok value
      | none => .error (.unrecognizedToken t.text)

/-- The operands without a value: a name that is no constant, and a cell reference without a table,
without its row or column, or to a cell that holds no number. -/
inductive Unresolved (scope : Scope) (t : Token) : Error → Prop where
  | unknown (named : t.kind = .name) (h : scope.constants.has t.text = false) :
      Unresolved scope t (.unrecognizedToken t.text)
  | noTable (refers : t.kind = .cell) (h : scope.table = none) :
      Unresolved scope t (.noActiveTable t.text)
  | noCell {row column : String} {table : Table} (refers : t.kind = .cell) (hr : t.row = some row)
      (hc : t.column = some column) (h : scope.table = some table)
      (missing : ¬(table.hasRow row = true ∧ table.hasColumn column = true)) :
      Unresolved scope t (.invalidReference t.text table.name)
  | noNumber {row column content : String} {table : Table} (refers : t.kind = .cell)
      (hr : t.row = some row) (hc : t.column = some column) (h : scope.table = some table)
      (found : table.getCell row column = .ok content) (words : cellNumber? content = none) :
      Unresolved scope t (.nonNumericCell t.text content)

def Resolved (scope : Scope) (t : Token) : Prop :=
  ∀ cause, ¬Unresolved scope t cause

section Operands

variable {scope : Scope} {t : Token}

theorem has_eq_isSome (constants : Constants) (name : String) :
    constants.has name = (constants.value? name).isSome := by
  rw [Constants.has, Constants.value?, Option.isSome_map, Catalog.get?_isSome]

theorem operand?_name (text : String) :
    operand? scope (.name text) =
      match scope.constants.value? text with
      | some value => .ok value
      | none => .error (.unrecognizedToken text) := rfl

/-- A cell found by the position of its column is the cell of the table. -/
theorem cellText?_eq (table : Table) (row column : String) :
    cellText? table row column = (table.getCell row column).toOption := by
  rw [cellText?, Table.getCell, Table.row, Table.columnIndex]
  cases table.rows.get? row with
  | none => rfl
  | some found =>
      cases table.columns.idxOf? column with
      | none => rfl
      | some index =>
          have within : (if h : index < found.cells.length then found.cells[index] else "") =
              found.cells.getD index "" := by
            split <;> simp [*]
          exact congrArg some within

theorem cellText?_of_getCell {table : Table} {row column content : String}
    (h : table.getCell row column = .ok content) : cellText? table row column = some content := by
  rw [cellText?_eq, h]
  rfl

theorem cellText?_of_getCell_error {table : Table} {row column : String} {cause : TableError}
    (h : table.getCell row column = .error cause) : cellText? table row column = none := by
  rw [cellText?_eq, h]
  rfl

theorem cellValue_cellRef {row column : String} {value : Float}
    (h : cellValue scope.table (.cellRef row column) = .ok value) :
    Resolved scope (.cellRef row column) := by
  intro cause unresolved
  cases unresolved with
  | unknown named => cases named
  | noTable _ hn => simp [cellValue, hn] at h
  | noCell _ hr hc ht missing =>
      cases hr
      cases hc
      obtain ⟨cause, he⟩ := Table.getCell_eq_error missing
      simp [cellValue, ht, Token.cellRef, cellText?_of_getCell_error he] at h
  | noNumber _ hr hc ht found words =>
      cases hr
      cases hc
      simp [cellValue, ht, Token.cellRef, cellText?_of_getCell found, words] at h

theorem unresolved_cellRef {row column : String} {cause : Error}
    (h : cellValue scope.table (.cellRef row column) = .error cause) :
    Unresolved scope (.cellRef row column) cause := by
  cases ht : scope.table with
  | none =>
      rw [ht] at h
      cases h
      exact .noTable rfl ht
  | some table =>
      simp only [cellValue, ht, Token.cellRef] at h
      cases hf : table.getCell row column with
      | error refusal =>
          rw [cellText?_of_getCell_error hf] at h
          cases h
          refine .noCell rfl rfl rfl ht fun there => ?_
          obtain ⟨content, hc⟩ := Table.exists_getCell there.1 there.2
          rw [hc] at hf
          cases hf
      | ok content =>
          cases hn : cellNumber? content with
          | some value => simp [cellText?_of_getCell hf, hn] at h
          | none =>
              simp only [cellText?_of_getCell hf, hn] at h
              cases h
              exact .noNumber rfl rfl rfl ht hf hn

theorem resolved_of_operand? {value : Float} (spelled : t.Spelled)
    (h : operand? scope t = .ok value) : Resolved scope t := by
  cases spelled with
  | cell => exact cellValue_cellRef h
  | @name text named =>
      intro cause unresolved
      cases unresolved with
      | unknown _ hn =>
          rw [has_eq_isSome, Option.isSome_eq_false_iff, Option.isNone_iff_eq_none] at hn
          rw [operand?_name, show scope.constants.value? text = none from hn] at h
          cases h
      | noTable refers | noCell refers | noNumber refers => cases refers
  | number | operator | opening | closing | comma =>
      intro cause unresolved
      cases unresolved with
      | unknown wrong | noTable wrong | noCell wrong | noNumber wrong => cases wrong

theorem unresolved_of_operand? {cause : Error} (spelled : t.Spelled)
    (operand : scope.isOperand t = true) (h : operand? scope t = .error cause) :
    Unresolved scope t cause := by
  cases spelled with
  | number => cases h
  | cell => exact unresolved_cellRef h
  | @name text named =>
      rw [operand?_name] at h
      cases hv : scope.constants.value? text with
      | some value =>
          rw [hv] at h
          cases h
      | none =>
          have hn : scope.constants.has text = false := by rw [has_eq_isSome, hv]; rfl
          rw [hv] at h
          cases h
          exact .unknown rfl hn
  | operator | opening | closing | comma => cases operand

end Operands

/-! ## Taking single tokens -/

section Steps

variable {scope : Scope} {t : Token} (stack : List Float)

theorem take_operand (spelled : t.Spelled) (operand : scope.isOperand t = true) :
    take scope stack (scope.mark t) = ((operand? scope t).map (· :: stack)).mapError .error := by
  cases spelled with
  | number nonempty whole fraction =>
      have hp := parse?_number nonempty whole fraction
      rw [Vocabulary.mark_of_ne_name _ (by nofun)]
      simp only [take, operand?, Token.number, hp]
      rfl
  | cell => rfl
  | @name text named =>
      have hv := has_eq_isSome scope.constants text
      rw [operand?_name]
      cases hc : scope.constants.value? text with
      | none =>
          rw [hc] at hv
          simp [Vocabulary.mark, Token.name, hv, take]
          rfl
      | some value =>
          rw [hc] at hv
          simp [Vocabulary.mark, Token.name, hv, take, hc, Token.marked]
          rfl
  | operator | opening | closing | comma => cases operand

theorem take_function (function : scope.isFunction t = true) (x : Float) :
    take scope (x :: stack) (t.marked .function) =
      .ok ((scope.functions.named? t.text).elim 0 (fun f => f x) :: stack) := by
  simp only [Vocabulary.isFunction, Bool.and_eq_true, Functions.has] at function
  rw [← Catalog.get?_isSome] at function
  obtain ⟨f, hf⟩ := Option.isSome_iff_exists.1 function.2
  simp [take, Token.marked, applyFunction, Functions.named?, hf]
  rfl

theorem take_token (op : Operator) (a b : Float) :
    take scope (b :: a :: stack) op.token = .ok (op.apply a b :: stack) := by
  simp [take, Operator.token, applyOperator]
  rfl

theorem takeAll_cons (rest : List Token) :
    takeAll scope stack (t :: rest) =
      (take scope stack t).bind fun stack => takeAll scope stack rest := rfl

end Steps

/-! ## Taking whole expressions -/

/-- The value of an expression whose operands all have one. -/
def Tree.value (scope : Scope) : Tree → Float
  | .operand t =>
      match operand? scope t with
      | .ok value => value
      | .error _ => 0
  | .apply f argument =>
      (scope.functions.named? f.text).elim 0 fun function => function (argument.value scope)
  | .binary op left right => op.apply (left.value scope) (right.value scope)

/-- Whether a cause is that of the first operand without a value. -/
def Leftmost (scope : Scope) (operands : List Token) (cause : Error) : Prop :=
  ∃ before t after, operands = before ++ t :: after ∧ (∀ u ∈ before, Resolved scope u) ∧
    Unresolved scope t cause

section Expressions

variable {scope : Scope}

theorem Leftmost.append {operands : List Token} {cause : Error}
    (leftmost : Leftmost scope operands cause) (more : List Token) :
    Leftmost scope (operands ++ more) cause := by
  obtain ⟨before, t, after, rfl, resolved, unresolved⟩ := leftmost
  exact ⟨before, t, after ++ more, by simp, resolved, unresolved⟩

theorem Leftmost.after_resolved {first operands : List Token} {cause : Error}
    (resolved : ∀ t ∈ first, Resolved scope t) (leftmost : Leftmost scope operands cause) :
    Leftmost scope (first ++ operands) cause := by
  obtain ⟨before, t, after, rfl, resolvedBefore, unresolved⟩ := leftmost
  refine ⟨first ++ before, t, after, by simp, ?_, unresolved⟩
  intro u hu
  rcases List.mem_append.1 hu with hf | hb
  · exact resolved u hf
  · exact resolvedBefore u hb

/-- Taking the postfix order of an expression pushes its value, whatever the stack holds and
whatever follows, or ends with the cause of its first operand without a value. -/
theorem takeAll_code {level : Level} {tokens : List Token} {tree : Tree}
    (derived : Derives scope.toVocabulary level tokens tree) (spelled : ∀ t ∈ tokens, t.Spelled)
    (stack : List Float) (rest : List Token) :
    ((∀ t ∈ tree.operands, Resolved scope t) ∧
      takeAll scope stack (tree.code scope.toVocabulary ++ rest) =
        takeAll scope (tree.value scope :: stack) rest) ∨
    ∃ cause, Leftmost scope tree.operands cause ∧
      takeAll scope stack (tree.code scope.toVocabulary ++ rest) = .error (.error cause) := by
  induction derived generalizing stack rest with
  | @operand t h =>
      have hs := spelled t List.mem_cons_self
      have htake := take_operand stack hs h
      cases ho : operand? scope t with
      | ok value =>
          refine .inl ⟨by simpa [Tree.operands] using resolved_of_operand? hs ho, ?_⟩
          rw [Tree.code, List.singleton_append, takeAll_cons, htake, ho, Tree.value, ho]
          rfl
      | error cause =>
          have leftmost : Leftmost scope [t] cause :=
            ⟨[], t, [], rfl, List.forall_mem_nil _, unresolved_of_operand? hs h ho⟩
          refine .inr ⟨cause, leftmost, ?_⟩
          rw [Tree.code, List.singleton_append, takeAll_cons, htake, ho]
          rfl
  | group _ ih => exact ih (fun t ht => spelled t (by simp [ht])) stack rest
  | @apply f tokens tree h _ ih =>
      rw [Tree.code, List.append_assoc]
      rcases ih (fun t ht => spelled t (by simp [ht])) stack ([f.marked .function] ++ rest) with
        ⟨resolved, htake⟩ | ⟨cause, leftmost, htake⟩
      · refine .inl ⟨resolved, ?_⟩
        rw [htake, List.singleton_append, takeAll_cons, take_function stack h]
        rfl
      · exact .inr ⟨cause, leftmost, htake⟩
  | factor _ ih => exact ih spelled stack rest
  | product _ ih => exact ih spelled stack rest
  | @binary op before after left right _ _ ihFirst ihSecond =>
      rw [Tree.code, List.append_assoc, List.append_assoc]
      rcases ihFirst (fun t ht => spelled t (by simp [ht])) stack
          (right.code scope.toVocabulary ++ ([op.token] ++ rest)) with
        ⟨resolved, htake⟩ | ⟨cause, leftmost, htake⟩
      · rw [htake]
        rcases ihSecond (fun t ht => spelled t (by simp [ht])) (left.value scope :: stack)
            ([op.token] ++ rest) with ⟨resolved', htake'⟩ | ⟨cause, leftmost, htake'⟩
        · refine .inl ⟨?_, ?_⟩
          · intro t ht
            exact (List.mem_append.1 ht).elim (resolved t) (resolved' t)
          · rw [htake', List.singleton_append, takeAll_cons, take_token]
            rfl
        · exact .inr ⟨cause, leftmost.after_resolved resolved, htake'⟩
      · exact .inr ⟨cause, leftmost.append _, htake⟩

end Expressions

theorem evaluate_eq {engine : Engine} {text : String} {tokens : List Token}
    (lexed : engine.tokenize text = .ok tokens) (table : Option Table) :
    engine.evaluate text table =
      (toPostfix engine.toVocabulary tokens).bind
        (evaluatePostfix ⟨engine.toVocabulary, table⟩) := by
  rw [Engine.evaluate, Engine.toPostfix, lexed]
  rfl

theorem evaluate_eq_code {engine : Engine} {text : String} {tokens : List Token} {tree : Tree}
    (lexed : engine.tokenize text = .ok tokens)
    (derived : Derives engine.toVocabulary .sum tokens tree) (table : Option Table) :
    engine.evaluate text table =
      evaluatePostfix ⟨engine.toVocabulary, table⟩ (tree.code engine.toVocabulary) := by
  rw [evaluate_eq lexed, toPostfix_of_derives derived]
  rfl

/-- The value of a formula that is an infix expression, or the error of its leftmost operand
without a value. -/
theorem evaluate_of_derives (engine : Engine) (table : Option Table) {text : String}
    {tokens : List Token} {tree : Tree} (lexed : engine.tokenize text = .ok tokens)
    (derived : Derives engine.toVocabulary .sum tokens tree) :
    ((∀ t ∈ tree.operands, Resolved ⟨engine.toVocabulary, table⟩ t) ∧
      engine.evaluate text table = .ok (tree.value ⟨engine.toVocabulary, table⟩)) ∨
    ∃ cause, Leftmost ⟨engine.toVocabulary, table⟩ tree.operands cause ∧
      engine.evaluate text table = .error (.error cause) := by
  have spelled : ∀ t ∈ tokens, t.Spelled := fun t ht => spelled_of_mem_tokenize lexed ht
  have htree := @takeAll_code ⟨engine.toVocabulary, table⟩ _ _ _ derived spelled [] []
  rw [List.append_nil] at htree
  rw [evaluate_eq_code lexed derived, evaluatePostfix]
  rcases htree with ⟨resolved, htake⟩ | ⟨cause, leftmost, htake⟩
  · rw [htake]
    exact .inl ⟨resolved, rfl⟩
  · rw [htake]
    exact .inr ⟨cause, leftmost, rfl⟩

theorem evaluate_of_derives_root :
    ∃ tokens tree, Engine.standard.tokenize "1 - 2 * sqrt(pi)" = .ok tokens ∧
      Derives Engine.standard.toVocabulary .sum tokens tree ∧
      (((∀ t ∈ tree.operands, Resolved ⟨Engine.standard.toVocabulary, none⟩ t) ∧
        Engine.standard.evaluate "1 - 2 * sqrt(pi)" none =
          .ok (tree.value ⟨Engine.standard.toVocabulary, none⟩)) ∨
      ∃ cause, Leftmost ⟨Engine.standard.toVocabulary, none⟩ tree.operands cause ∧
        Engine.standard.evaluate "1 - 2 * sqrt(pi)" none = .error (.error cause)) := by
  have lexed : Engine.standard.tokenize "1 - 2 * sqrt(pi)" =
      .ok [.number "1", Operator.subtract.token, .number "2", Operator.multiply.token,
        .name "sqrt", .opening, .name "pi", .closing] := by
    change tokenize false "1 - 2 * sqrt(pi)" = _
    decide +kernel
  have one : Derives Engine.standard.toVocabulary .sum [.number "1"] (.operand (.number "1")) :=
    derives_sum (.operand rfl)
  have two : Derives Engine.standard.toVocabulary .product [.number "2"] (.operand (.number "2")) :=
    .factor (.operand rfl)
  have pi : Derives Engine.standard.toVocabulary .sum [.name "pi"] (.operand (.name "pi")) :=
    derives_sum (.operand rfl)
  have root : Derives Engine.standard.toVocabulary .factor
      [.name "sqrt", .opening, .name "pi", .closing]
      (.apply (.name "sqrt") (.operand (.name "pi"))) := .apply rfl pi
  have twice := @Derives.binary Engine.standard.toVocabulary .multiply _ _ _ _ two root
  have whole := @Derives.binary _ .subtract _ _ _ _ one twice
  exact ⟨_, _, lexed, whole, evaluate_of_derives Engine.standard none lexed whole⟩

end Wordsheet.Formula
