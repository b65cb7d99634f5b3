import Wordsheet.Proofs.Formula.Capitals

/-! # Formulas in either letter case

A formula means the same in whatever letter case its names are: constants are found by their
capitals and functions by their small letters, so names that differ in letter case only are found
alike, and nothing else in converting and evaluating tokens looks at names. An error may show the
name as it was spelled.
-/

namespace Wordsheet.Formula

open Text

/-! ## Names in a vocabulary -/

section Names

variable {name : String} {c : Char}

theorem isName_upperCased (named : isName name = true) : isName (upperCased name) = true := by
  rw [isName] at named ⊢
  rw [toList_upperCased]
  cases hs : name.toList with
  | nil =>
      rw [hs] at named
      cases named
  | cons c cs =>
      rw [hs] at named
      obtain ⟨starts, continues⟩ := Bool.and_eq_true_iff.1 named
      rw [capitals_cons, Bool.and_eq_true_iff, startsName_toUpper, capitals, List.all_map]
      exact ⟨starts, List.all_eq_true.2 fun d hd =>
        (continuesName_toUpper d).trans (List.all_eq_true.1 continues d hd)⟩

theorem capitalLetters_upperCased (named : isName name = true) :
    capitalLetters (upperCased name) = capitalLetters name := by
  rw [capitalLetters_of_isName (isName_upperCased named), capitalLetters_of_isName named,
    upperCased_upperCased]

theorem toNat_lt_of_continuesName (h : continuesName c = true) : c.toNat < 128 := by
  simp only [continuesName, Char.isAlphanum, Bool.or_eq_true, beq_iff_eq] at h
  rcases h with (alpha | digit) | rfl
  · have letter := toNat_of_isAlpha alpha
    omega
  · have high := of_decide_eq_true ((Bool.and_eq_true_iff ..).1 digit).2
    exact Nat.lt_of_le_of_lt (UInt32.le_iff_toNat_le.1 high) (by decide)
  · decide

theorem smallLettersAfter_of_ascii {cs : List Char} (ascii : ∀ c ∈ cs, c.toNat < 128)
    (before : List Char) : smallLettersAfter before cs = cs.map Char.toLower := by
  induction cs generalizing before with
  | nil => rfl
  | cons c cs ih =>
      obtain ⟨hc, ascii⟩ := List.forall_mem_cons.1 ascii
      have noSigma : (c == 'Σ') = false := by
        rw [beq_eq_false_iff_ne]
        rintro rfl
        exact absurd hc (by decide)
      rw [smallLettersAfter, noSigma, ih ascii, smallLetter]
      simp only [hc, if_true]
      rfl

/-- The small form of a name is its ASCII small form. -/
theorem smallLetters_of_isName (named : isName name = true) :
    smallLetters name = String.ofList (name.toList.map Char.toLower) := by
  rw [smallLetters, smallLettersAfter_of_ascii fun c hc =>
    toNat_lt_of_continuesName (continuesName_of_isName named c hc)]

theorem smallLetters_upperCased (named : isName name = true) :
    smallLetters (upperCased name) = smallLetters name := by
  rw [smallLetters_of_isName (isName_upperCased named), smallLetters_of_isName named,
    toList_upperCased, capitals, List.map_map]
  exact congrArg String.ofList
    (List.map_congr_left fun c _ => Char.toLower_toUpper_eq_toLower c)

variable (constants : Constants) (functions : Functions)

theorem has_constant_upperCased (named : isName name = true) :
    constants.has (upperCased name) = constants.has name := by
  rw [Constants.has, Constants.has, capitalLetters_upperCased named]

theorem value?_upperCased (named : isName name = true) :
    constants.value? (upperCased name) = constants.value? name := by
  rw [Constants.value?, Constants.value?, capitalLetters_upperCased named]

theorem has_function_upperCased (named : isName name = true) :
    functions.has (upperCased name) = functions.has name := by
  rw [Functions.has, Functions.has, smallLetters_upperCased named]

theorem named?_upperCased (named : isName name = true) :
    functions.named? (upperCased name) = functions.named? name := by
  rw [Functions.named?, Functions.named?, smallLetters_upperCased named]

end Names

/-! ## Conversion -/

section Conversion

variable {known : Vocabulary} {t : Token}

theorem isFunction_withoutCase (spelled : t.Spelled) :
    known.isFunction t.withoutCase = known.isFunction t := by
  cases spelled with
  | @name text named =>
      have constant : known.constants.has (Token.name text).withoutCase.text =
          known.constants.has text := has_constant_upperCased _ named
      have function : known.functions.has (Token.name text).withoutCase.text =
          known.functions.has text := has_function_upperCased _ named
      rw [Vocabulary.isFunction, Vocabulary.isFunction, constant, function]
      rfl
  | number | cell | operator | opening | closing | comma => rfl

theorem isOperand_withoutCase (spelled : t.Spelled) :
    known.isOperand t.withoutCase = known.isOperand t := by
  rw [Vocabulary.isOperand, Vocabulary.isOperand, isFunction_withoutCase spelled, kind_withoutCase]

theorem mark_withoutCase (spelled : t.Spelled) :
    known.mark t.withoutCase = (known.mark t).withoutCase := by
  cases spelled with
  | @name text named =>
      have constant : known.constants.has (Token.name text).withoutCase.text =
          known.constants.has text := has_constant_upperCased _ named
      rw [Vocabulary.mark, Vocabulary.mark, constant]
      by_cases h : known.constants.has text = true
      · rw [if_pos ⟨rfl, h⟩, if_pos ⟨rfl, h⟩]
        rfl
      · rw [if_neg fun both => h both.2, if_neg fun both => h both.2]
  | number | cell | operator | opening | closing | comma => rfl

theorem marked_function_withoutCase (function : known.isFunction t = true) :
    t.withoutCase.marked .function = (t.marked .function).withoutCase := by
  have named := kind_of_isFunction function
  simp only [Token.withoutCase, Token.marked, named]

theorem isOpening_withoutCase (t : Token) : t.withoutCase.isOpening = t.isOpening := by
  rw [Token.isOpening, Token.isOpening, kind_withoutCase]

theorem bindsAs_withoutCase (rank : Nat) (t : Token) :
    t.withoutCase.bindsAs rank = t.bindsAs rank := by
  rw [Token.bindsAs, Token.bindsAs, kind_withoutCase]
  by_cases h : t.kind = .operator
  · have same : t.withoutCase = t := by simp only [Token.withoutCase, h]
    rw [same]
  · simp [h]

/-- What is taken off waiting tokens by a test that looks at no letter case. -/
theorem takeWhile_withoutCase {test : Token → Bool} (h : ∀ t, test t.withoutCase = test t)
    (waiting : List Token) :
    (waiting.map Token.withoutCase).takeWhile test =
        (waiting.takeWhile test).map Token.withoutCase ∧
      (waiting.map Token.withoutCase).dropWhile test =
        (waiting.dropWhile test).map Token.withoutCase := by
  have same : test ∘ Token.withoutCase = test := funext h
  rw [List.takeWhile_map, List.dropWhile_map, same]
  exact ⟨rfl, rfl⟩

theorem opening_withoutCase (waiting : List Token) :
    aboveOpening (waiting.map Token.withoutCase) =
        (aboveOpening waiting).map Token.withoutCase ∧
      fromOpening (waiting.map Token.withoutCase) =
        (fromOpening waiting).map Token.withoutCase :=
  takeWhile_withoutCase (fun t => by rw [isOpening_withoutCase]) waiting

theorem splitFunction_withoutCase (waiting : List Token) :
    splitFunction (waiting.map Token.withoutCase) =
      ((splitFunction waiting).1.map Token.withoutCase,
        (splitFunction waiting).2.map Token.withoutCase) := by
  cases waiting with
  | nil => rfl
  | cons t rest =>
      rw [List.map_cons, splitFunction, splitFunction, kind_withoutCase]
      split <;> rfl

theorem map_append_withoutCase (done : List Token) (result : Except Failure (List Token)) :
    (result.map (done ++ ·)).map (List.map Token.withoutCase) =
      (result.map (List.map Token.withoutCase)).map (done.map Token.withoutCase ++ ·) := by
  cases result with
  | error cause => rfl
  | ok order => exact congrArg Except.ok List.map_append

/-- Tokens are put in one order in whatever letter case their names are. -/
theorem postfixFrom_withoutCase {tokens : List Token} (spelled : ∀ t ∈ tokens, t.Spelled)
    (waiting : List Token) :
    postfixFrom known (waiting.map Token.withoutCase) (tokens.map Token.withoutCase) =
      (postfixFrom known waiting tokens).map (List.map Token.withoutCase) := by
  induction tokens generalizing waiting with
  | nil =>
      rw [List.map_nil, postfixFrom, postfixFrom, List.any_map]
      simp only [Function.comp_def, kind_withoutCase]
      split <;> rfl
  | cons t rest ih =>
      obtain ⟨ht, spelled⟩ := List.forall_mem_cons.1 spelled
      have ih := ih spelled
      have operand (h : known.isOperand t = true) :
          postfixFrom known (waiting.map Token.withoutCase) ((t :: rest).map Token.withoutCase) =
            (postfixFrom known waiting (t :: rest)).map (List.map Token.withoutCase) := by
        rw [List.map_cons, postfixFrom_operand _ ((isOperand_withoutCase ht).trans h),
          postfixFrom_operand _ h, mark_withoutCase ht, ih]
        exact (map_append_withoutCase [known.mark t] _).symm
      have same : ∀ op : Operator, op.token.withoutCase = op.token := fun _ => rfl
      cases ht with
      | number | cell => exact operand rfl
      | @name text named =>
          have ht : (Token.name text).Spelled := .name named
          cases hf : known.isFunction (.name text) with
          | false => exact operand (by rw [isOperand_name, hf]; rfl)
          | true =>
              have hf' := (isFunction_withoutCase ht).trans hf
              rw [List.map_cons, postfixFrom_function _ hf', postfixFrom_function _ hf, ← ih,
                List.map_cons, marked_function_withoutCase hf]
      | operator op =>
          obtain ⟨htake, hdrop⟩ := takeWhile_withoutCase (bindsAs_withoutCase op.rank) waiting
          rw [List.map_cons, same, postfixFrom_operator, postfixFrom_operator, htake, hdrop,
            map_append_withoutCase, ← ih, List.map_cons, same]
      | opening => exact ih (.opening :: waiting)
      | closing =>
          obtain ⟨habove, hfrom⟩ := opening_withoutCase waiting
          have closing : Token.closing.withoutCase = .closing := rfl
          rw [List.map_cons, closing]
          cases hw : fromOpening waiting with
          | nil =>
              rw [hw] at hfrom
              rw [postfixFrom_closing_nil _ hfrom, postfixFrom_closing_nil _ hw]
              rfl
          | cons inner outer =>
              rw [hw, List.map_cons] at hfrom
              rw [postfixFrom_closing_cons _ hfrom, postfixFrom_closing_cons _ hw, habove,
                splitFunction_withoutCase, map_append_withoutCase, ih, List.map_append]
      | comma =>
          obtain ⟨habove, hfrom⟩ := opening_withoutCase waiting
          have comma : Token.comma.withoutCase = .comma := rfl
          rw [List.map_cons, comma, postfixFrom_comma, postfixFrom_comma, habove, hfrom,
            map_append_withoutCase, ih]

end Conversion

/-! ## Evaluation -/

def Error.withoutCase : Error → Error
  | .unrecognizedToken name => .unrecognizedToken (upperCased name)
  | .missingArgument name => .missingArgument (upperCased name)
  | cause => cause

def Failure.withoutCase : Failure → Failure
  | .error cause => .error cause.withoutCase
  | .fault cause => .fault cause

theorem Failure.withoutCase_withoutCase (cause : Failure) :
    cause.withoutCase.withoutCase = cause.withoutCase := by
  cases cause with
  | error cause =>
      cases cause with
      | unrecognizedToken name | missingArgument name =>
          rw [Failure.withoutCase, Error.withoutCase, Failure.withoutCase, Error.withoutCase,
            upperCased_upperCased]
      | _ => rfl
  | fault cause => rfl

theorem code_withoutCase (cause : Error) : cause.withoutCase.code = cause.code := by
  cases cause <;> rfl

section Evaluation

variable {scope : Scope} {t : Token} {stack : List Float}

theorem cellValue_withoutCase (table : Option Table) (t : Token) :
    (cellValue table t).mapError Error.withoutCase = cellValue table t := by
  unfold cellValue
  split
  · rfl
  · split
    · split
      · rfl
      · split <;> rfl
    · rfl

theorem take_operand_withoutCase (spelled : t.Spelled) (operand : scope.isOperand t = true) :
    take scope stack (scope.mark t).withoutCase =
      (take scope stack (scope.mark t)).mapError Failure.withoutCase := by
  cases spelled with
  | number nonempty whole fraction =>
      rw [Vocabulary.mark_of_ne_name _ (fun h => by cases h)]
      simp only [Token.withoutCase, Token.number, take, parse?_number nonempty whole fraction]
      rfl
  | @cell row column =>
      have same : (Token.cellRef row column).withoutCase = .cellRef row column := rfl
      have unnamed := cellValue_withoutCase scope.table (.cellRef row column)
      rw [Vocabulary.mark_of_ne_name _ (fun h => by cases h), same, take_cellRef]
      cases hv : cellValue scope.table (.cellRef row column) with
      | ok value => rfl
      | error cause =>
          rw [hv] at unnamed
          exact (congrArg (Except.error ∘ Failure.error) (Except.error.inj unnamed)).symm
  | @name text named =>
      cases hc : scope.constants.has text with
      | true =>
          have constant : scope.mark (.name text) = (Token.name text).marked .constant :=
            if_pos ⟨rfl, hc⟩
          rw [constant]
          simp only [Token.withoutCase, Token.marked, Token.name, take, value?_upperCased _ named]
          cases scope.constants.value? text <;> rfl
      | false =>
          have unknown : scope.mark (.name text) = .name text := if_neg (by simp [Token.name, hc])
          rw [unknown]
          rfl
  | operator | opening | closing | comma => cases operand

theorem take_function_withoutCase (spelled : t.Spelled) (function : scope.isFunction t = true) :
    take scope stack (t.marked .function).withoutCase =
      (take scope stack (t.marked .function)).mapError Failure.withoutCase := by
  have kind := kind_of_isFunction function
  cases spelled with
  | @name text named =>
      simp only [Token.withoutCase, Token.marked, Token.name, take, applyFunction,
        named?_upperCased _ named]
      cases scope.functions.named? text with
      | none => rfl
      | some f => cases stack <;> rfl
  | number | cell | operator | opening | closing | comma => cases kind

theorem take_operator_withoutCase (op : Operator) :
    take scope stack op.token.withoutCase =
      (take scope stack op.token).mapError Failure.withoutCase := by
  have same : op.token.withoutCase = op.token := rfl
  rcases stack with _ | ⟨b, _ | ⟨a, below⟩⟩
  · rfl
  · rfl
  · rw [same, take_token]
    rfl

theorem takeAll_withoutCase {order : List Token}
    (h : ∀ t ∈ order, ∀ stack, take scope stack t.withoutCase =
      (take scope stack t).mapError Failure.withoutCase) (stack : List Float) :
    takeAll scope stack (order.map Token.withoutCase) =
      (takeAll scope stack order).mapError Failure.withoutCase := by
  induction order generalizing stack with
  | nil => rfl
  | cons t rest ih =>
      obtain ⟨ht, h⟩ := List.forall_mem_cons.1 h
      rw [List.map_cons, takeAll_cons, takeAll_cons, ht]
      cases take scope stack t with
      | ok next => exact ih h next
      | error cause => rfl

theorem evaluatePostfix_withoutCase {order : List Token}
    (h : ∀ t ∈ order, ∀ stack, take scope stack t.withoutCase =
      (take scope stack t).mapError Failure.withoutCase) :
    evaluatePostfix scope (order.map Token.withoutCase) =
      (evaluatePostfix scope order).mapError Failure.withoutCase := by
  rw [evaluatePostfix, evaluatePostfix, takeAll_withoutCase h]
  cases takeAll scope [] order with
  | error cause => rfl
  | ok held =>
      rcases held with _ | ⟨value, _ | ⟨other, below⟩⟩ <;> rfl

/-- In whatever letter case the names among some tokens are, the tokens have one value, or one
failure but for the letter case of the name that it is about. -/
theorem value_withoutCase {known : Vocabulary} {tokens : List Token}
    (spelled : ∀ t ∈ tokens, t.Spelled) (table : Option Table) :
    ((toPostfix known (tokens.map Token.withoutCase)).bind
        (evaluatePostfix ⟨known, table⟩)).mapError Failure.withoutCase =
      ((toPostfix known tokens).bind
        (evaluatePostfix ⟨known, table⟩)).mapError Failure.withoutCase := by
  have order := @postfixFrom_withoutCase known tokens spelled []
  rw [List.map_nil] at order
  rw [toPostfix, toPostfix, order]
  cases converted : postfixFrom known [] tokens with
  | error cause => rfl
  | ok order =>
      have taken : ∀ t ∈ order, ∀ stack, take ⟨known, table⟩ stack t.withoutCase =
          (take ⟨known, table⟩ stack t).mapError Failure.withoutCase :=
        forall_toPostfix spelled
          (fun t ht operand stack => take_operand_withoutCase (spelled t ht) operand)
          (fun t ht function stack => take_function_withoutCase (spelled t ht) function)
          (fun op stack => take_operator_withoutCase op) converted
      change (evaluatePostfix ⟨known, table⟩ (order.map Token.withoutCase)).mapError _ =
        (evaluatePostfix ⟨known, table⟩ order).mapError _
      rw [evaluatePostfix_withoutCase taken]
      cases evaluatePostfix ⟨known, table⟩ order with
      | ok value => rfl
      | error cause => exact congrArg Except.error cause.withoutCase_withoutCase

end Evaluation

/-! ## Texts -/

section Texts

variable {engine : Engine} {table : Option Table} {text text' : String} {placed : List Placed}

/-- Texts with the same pieces but for letter case have one value, or one failure but for that. -/
theorem evaluate_of_alike_pieces (engine : Engine) (table : Option Table)
    (alike : (pieces text'.toList).map Piece.withoutCase =
      (pieces text.toList).map Piece.withoutCase) :
    (engine.evaluate text' table).mapError Failure.withoutCase =
      (engine.evaluate text table).mapError Failure.withoutCase := by
  rcases tokenize_of_alike alike engine.strict with ⟨lexed, lexed'⟩ | ⟨cause, lexed, lexed'⟩
  · have same : ((placedFrom 0 (pieces text'.toList)).map Placed.token).map Token.withoutCase =
        ((placedFrom 0 (pieces text.toList)).map Placed.token).map Token.withoutCase := by
      rw [tokens_withoutCase, alike, tokens_withoutCase]
    rw [evaluate_eq lexed, evaluate_eq lexed',
      ← value_withoutCase fun t ht => spelled_of_mem_tokenize lexed ht,
      ← value_withoutCase fun t ht => spelled_of_mem_tokenize lexed' ht, same]
  · rw [evaluate_eq_error lexed, evaluate_eq_error lexed']

/-- Texts that differ in the letter case of names only have tokens of the same kinds in the same
places, or are refused for the same characters in the same place. They have the same value, or
errors of one kind, which differ at most in the letter case of the name that they are about. -/
theorem evaluate_recased (engine : Engine) (table : Option Table)
    (partition : Partition text.toList 0 placed)
    (recased : Recased text.toList text'.toList 0 placed) :
    (∃ placed', Partition text'.toList 0 placed' ∧
      placed'.map (fun p => (p.start, p.token.kind)) =
        placed.map (fun p => (p.start, p.token.kind)) ∧
      (engine.tokenize text = .ok (placed.map Placed.token) ∧
          engine.tokenize text' = .ok (placed'.map Placed.token) ∨
        ∃ cause, engine.tokenize text = .error cause ∧ engine.tokenize text' = .error cause)) ∧
    ((∃ value, engine.evaluate text table = .ok value ∧
        engine.evaluate text' table = .ok value) ∨
      ∃ cause cause', engine.evaluate text table = .error (.error cause) ∧
        engine.evaluate text' table = .error (.error cause') ∧ cause'.code = cause.code ∧
        cause'.withoutCase = cause.withoutCase) := by
  have whole := partition_pieces (List.drop_zero (l := text.toList))
  obtain rfl := partition.unique whole
  have alike := pieces_recased List.drop_zero recased
  rw [List.drop_zero] at alike
  refine ⟨⟨_, partition_pieces List.drop_zero, ?_, tokenize_of_alike alike engine.strict⟩, ?_⟩
  · rw [← places_withoutCase, alike, places_withoutCase]
  · have same := evaluate_of_alike_pieces engine table alike
    rcases evaluate_value_or_raises engine table text with ⟨value, hv⟩ | ⟨cause, _, hc⟩ <;>
      rcases evaluate_value_or_raises engine table text' with ⟨value', hv'⟩ | ⟨cause', _, hc'⟩
    · rw [hv, hv'] at same
      exact .inl ⟨value, hv, hv'.trans (congrArg _ (Except.ok.inj same))⟩
    · rw [hv, hc'] at same
      cases same
    · rw [hc, hv'] at same
      cases same
    · rw [hc, hc'] at same
      have same : cause'.withoutCase = cause.withoutCase :=
        Failure.error.inj (Except.error.inj same)
      refine .inr ⟨cause, cause', hc, hc', ?_, same⟩
      rw [← code_withoutCase, same, code_withoutCase]

theorem evaluate_recased_sqrt :
    let placed : List Placed := [⟨0, .name "SQRT"⟩, ⟨4, .opening⟩, ⟨5, .number "4"⟩,
      ⟨6, .closing⟩, ⟨7, Operator.multiply.token⟩, ⟨8, .name "Pi"⟩]
    Partition "SQRT(4)*Pi".toList 0 placed ∧
      Recased "SQRT(4)*Pi".toList "sqrt(4)*pI".toList 0 placed ∧
      ∃ value, Engine.standard.evaluate "SQRT(4)*Pi" none = .ok value ∧
        Engine.standard.evaluate "sqrt(4)*pI" none = .ok value := by
  intro placed
  have cut : pieces "SQRT(4)*Pi".toList = placed.map fun p => .token p.token := by decide +kernel
  have found : placedFrom 0 (pieces "SQRT(4)*Pi".toList) = placed := by
    rw [cut]
    rfl
  have partition : Partition "SQRT(4)*Pi".toList 0 placed :=
    found ▸ partition_pieces List.drop_zero
  have recased : Recased "SQRT(4)*Pi".toList "sqrt(4)*pI".toList 0 placed := by
    refine ⟨by decide, fun i _ apart => ?_⟩
    have sqrt : ¬ i < 4 := fun h => apart ⟨_, .head _, rfl, Nat.zero_le i, h⟩
    have pi : ¬ (8 ≤ i ∧ i < 10) := fun h =>
      apart ⟨⟨8, .name "Pi"⟩, by simp [placed], rfl, h.1, h.2⟩
    obtain rfl | rfl | rfl | rfl | past : i = 4 ∨ i = 5 ∨ i = 6 ∨ i = 7 ∨ 10 ≤ i := by omega
    · decide
    · decide
    · decide
    · decide
    · exact (List.getElem?_eq_none past).trans (List.getElem?_eq_none past).symm
  have lexed : Engine.standard.tokenize "SQRT(4)*Pi" = .ok (placed.map Placed.token) := by
    change tokenize false "SQRT(4)*Pi" = _
    decide +kernel
  have valued : ∃ value, Engine.standard.evaluate "SQRT(4)*Pi" none = .ok value := by
    rw [evaluate_eq lexed]
    exact ⟨_, rfl⟩
  refine ⟨partition, recased, ?_⟩
  obtain ⟨_, same | ⟨cause, _, failed, _⟩⟩ :=
    evaluate_recased Engine.standard none partition recased
  · exact same
  · obtain ⟨value, hv⟩ := valued
    cases hv.symm.trans failed

end Texts

end Wordsheet.Formula
