import Wordsheet.Proofs.Formula.CellNumber
import Wordsheet.Proofs.Formula.Meaning
import Wordsheet.Proofs.Formula.Rearrangement

/-! # What can go wrong with the formula of a text

The tokens of a text are turned into tokens that can all be taken: their numbers are numerals, their
operators have a sign, and functions and constants are marked only where there are some. So the
formula of a text has a value or one of the errors, for a cause that lies in the text or the table,
and is never at fault itself.
-/

namespace Wordsheet.Formula

/-! ## Tokens that can be taken -/

/-- The tokens in postfix order that can be taken. -/
inductive Vocabulary.Readable (known : Vocabulary) : Token → Prop where
  | number {text : String} {value : Decimal} (h : Numeral.parse? text = some (.finite value)) :
      Readable known (.number text)
  | cell (row column : String) : Readable known (.cellRef row column)
  | name {text : String} (named : isName text = true)
      (noConstant : known.constants.has text = false)
      (noFunction : known.functions.has text = false) : Readable known (.name text)
  | operator (op : Operator) : Readable known op.token
  | function {text : String} (h : known.functions.has text = true) :
      Readable known ((Token.name text).marked .function)
  | constant {text : String} (h : known.constants.has text = true) :
      Readable known ((Token.name text).marked .constant)

section Conversion

variable {known : Vocabulary} {t : Token}

theorem Vocabulary.Readable.has_function (readable : known.Readable t) (h : t.kind = .function) :
    known.functions.has t.text = true := by
  cases readable with
  | function has => exact has
  | number | cell | name | operator | constant => cases h

theorem Vocabulary.Readable.has_constant (readable : known.Readable t) (h : t.kind = .constant) :
    known.constants.has t.text = true := by
  cases readable with
  | constant has => exact has
  | number | cell | name | operator | function => cases h

theorem Vocabulary.Readable.unknown (readable : known.Readable t) (h : t.kind = .name) :
    t = .name t.text ∧ known.constants.has t.text = false ∧
      known.functions.has t.text = false := by
  cases readable with
  | name _ noConstant noFunction => exact ⟨rfl, noConstant, noFunction⟩
  | number | cell | operator | function | constant => cases h

theorem readable_mark (spelled : t.Spelled) (operand : known.isOperand t = true) :
    known.Readable (known.mark t) := by
  cases spelled with
  | number nonempty whole fraction =>
      rw [Vocabulary.mark_of_ne_name _ (by nofun)]
      exact .number (parse?_number nonempty whole fraction)
  | cell =>
      rw [Vocabulary.mark_of_ne_name _ (by nofun)]
      exact .cell ..
  | @name text named =>
      cases hc : known.constants.has text with
      | true =>
          rw [Vocabulary.mark, if_pos ⟨rfl, hc⟩]
          exact .constant hc
      | false =>
          rw [Vocabulary.mark, if_neg fun h => by simp [Token.name, hc] at h]
          rw [isOperand_name, Vocabulary.isFunction] at operand
          exact .name named hc (by simpa [Token.name, hc] using operand)
  | operator | opening | closing | comma => cases operand

theorem readable_function (spelled : t.Spelled) (function : known.isFunction t = true) :
    known.Readable (t.marked .function) := by
  simp only [Vocabulary.isFunction, Bool.and_eq_true, decide_eq_true_eq] at function
  cases spelled with
  | name named => exact .function function.2
  | number | cell | operator | opening | closing | comma => cases function.1.1

end Conversion

/-! ## Taking tokens -/

/-- Why a token is not taken: it is an operand without a value, an operator with less than two
values before it, or a function with none. -/
inductive Untaken (scope : Scope) (stack : List Float) (t : Token) : Error → Prop where
  | operand {cause : Error} (h : Unresolved scope t cause) : Untaken scope stack t cause
  | operator (h : t.kind = .operator) (short : stack.length < 2) :
      Untaken scope stack t (.missingOperand t.text)
  | function (h : t.kind = .function) (none : stack = []) :
      Untaken scope stack t (.missingArgument t.text)

section Taking

variable {scope : Scope} {t : Token} (stack : List Float)

theorem take_cellRef (row column : String) :
    take scope stack (.cellRef row column) =
      ((cellValue scope.table (.cellRef row column)).map (· :: stack)).mapError .error := rfl

/-- A token that can be taken is taken or stops for a cause, and is not at fault. -/
theorem take_readable (readable : scope.Readable t) :
    (∃ after, take scope stack t = .ok after) ∨
      ∃ cause, Untaken scope stack t cause ∧ take scope stack t = .error (.error cause) := by
  cases readable with
  | number h => exact .inl ⟨_, by simp only [take, Token.number, h]; rfl⟩
  | cell row column =>
      rw [take_cellRef]
      cases hv : cellValue scope.table (.cellRef row column) with
      | ok value => exact .inl ⟨_, rfl⟩
      | error cause => exact .inr ⟨cause, .operand (unresolved_cellRef hv), rfl⟩
  | name named noConstant => exact .inr ⟨_, .operand (.unknown rfl noConstant), rfl⟩
  | operator op =>
      rcases stack with _ | ⟨b, _ | ⟨a, below⟩⟩
      · exact .inr ⟨_, .operator rfl (by simp), rfl⟩
      · exact .inr ⟨_, .operator rfl (by simp), rfl⟩
      · exact .inl ⟨_, take_token below op a b⟩
  | @function text h =>
      rw [Functions.has, ← Catalog.get?_isSome] at h
      obtain ⟨f, hf⟩ := Option.isSome_iff_exists.1 h
      have htake : take scope stack ((Token.name text).marked .function) =
          (applyFunction scope.functions stack ((Token.name text).marked .function)).mapError
            .error := rfl
      rw [htake, applyFunction, Functions.named?, Token.marked, Token.name, hf]
      cases stack with
      | nil => exact .inr ⟨_, .function rfl rfl, rfl⟩
      | cons x below => exact .inl ⟨_, rfl⟩
  | @constant text h =>
      rw [has_eq_isSome] at h
      obtain ⟨value, hv⟩ := Option.isSome_iff_exists.1 h
      exact .inl ⟨_, by simp only [take, Token.marked, Token.name, hv]; rfl⟩

/-- Tokens that can be taken are all taken, or one of them stops after those before it. -/
theorem takeAll_readable {tokens : List Token} (readable : ∀ t ∈ tokens, scope.Readable t) :
    (∃ after, takeAll scope stack tokens = .ok after) ∨
      ∃ before t behind held cause, tokens = before ++ t :: behind ∧
        takeAll scope stack before = .ok held ∧ Untaken scope held t cause ∧
        takeAll scope stack tokens = .error (.error cause) := by
  induction tokens generalizing stack with
  | nil => exact .inl ⟨stack, rfl⟩
  | cons t rest ih =>
      rw [takeAll_cons]
      rcases take_readable stack (readable t List.mem_cons_self) with
        ⟨next, htake⟩ | ⟨cause, untaken, htake⟩
      · rw [htake]
        rcases ih next fun u hu => readable u (List.mem_cons_of_mem t hu) with
          ⟨after, hall⟩ | ⟨before, u, behind, held, cause, rfl, hbefore, untaken, hall⟩
        · exact .inl ⟨after, hall⟩
        · refine .inr ⟨t :: before, u, behind, held, cause, rfl, ?_, untaken, hall⟩
          rw [takeAll_cons, htake]
          exact hbefore
      · exact .inr ⟨[], t, rest, stack, cause, rfl, rfl, untaken, by rw [htake]; rfl⟩

end Taking

/-! ## Errors of a text -/

/-- The errors that the formula of a text may have, each with what it is due to. -/
inductive Engine.Raises (engine : Engine) (table : Option Table) (text : String) :
    Error → Prop where
  | unexpected {run : String} {position : Nat} (strict : engine.strict = true)
      (h : engine.tokenize text = .error (.unexpectedCharacter run position)) :
      Raises engine table text (.unexpectedCharacter run position)
  | closing {tokens : List Token} (lexed : engine.tokenize text = .ok tokens)
      (h : depthAfter 0 tokens = none) : Raises engine table text .unexpectedClosing
  | unclosed {tokens : List Token} {depth : Nat} (lexed : engine.tokenize text = .ok tokens)
      (h : depthAfter 0 tokens = some (depth + 1)) : Raises engine table text .unclosedOpening
  | stopped {before behind : List Token} {t : Token} {held : List Float} {cause : Error}
      (converted : engine.toPostfix text = .ok (before ++ t :: behind))
      (taken : takeAll ⟨engine.toVocabulary, table⟩ [] before = .ok held)
      (h : Untaken ⟨engine.toVocabulary, table⟩ held t cause) : Raises engine table text cause
  | left {order : List Token} {held : List Float} (converted : engine.toPostfix text = .ok order)
      (taken : takeAll ⟨engine.toVocabulary, table⟩ [] order = .ok held) (h : held.length ≠ 1) :
      Raises engine table text (.valuesLeft held.length)

section Texts

variable {engine : Engine} {text : String}

theorem tokenize_eq_error {cause : Error} (h : engine.tokenize text = .error cause) :
    engine.strict = true ∧ ∃ run position, cause = .unexpectedCharacter run position := by
  simp only [Engine.tokenize, tokenize] at h
  split at h
  · next run position found =>
      cases h
      cases hs : engine.strict with
      | false =>
          rw [hs] at found
          cases found
      | true => exact ⟨rfl, run, position, rfl⟩
  · cases h

/-- A text is put in postfix order, or cannot be for a character or a parenthesis in it. -/
theorem toPostfix_confined (engine : Engine) (table : Option Table) (text : String) :
    (∃ order, engine.toPostfix text = .ok order) ∨
      ∃ cause, engine.Raises table text cause ∧ engine.toPostfix text = .error (.error cause) := by
  cases lexed : engine.tokenize text with
  | error cause =>
      obtain ⟨strict, run, position, rfl⟩ := tokenize_eq_error lexed
      refine .inr ⟨_, .unexpected strict lexed, ?_⟩
      rw [Engine.toPostfix, lexed]
      rfl
  | ok tokens =>
      have hpostfix : engine.toPostfix text = postfixFrom engine.toVocabulary [] tokens := by
        rw [Engine.toPostfix, lexed]
        rfl
      have settled := @settled_postfixFrom engine.toVocabulary tokens
        (fun t ht => spelled_of_mem_tokenize lexed ht) [] (List.forall_mem_nil _)
      rw [← hpostfix] at settled
      rcases hdepth : depthAfter 0 tokens with _ | _ | depth
      · rw [show openings [] = 0 from rfl, hdepth] at settled
        exact .inr ⟨_, .closing lexed hdepth, settled⟩
      · rw [show openings [] = 0 from rfl, hdepth] at settled
        exact .inl settled
      · rw [show openings [] = 0 from rfl, hdepth] at settled
        exact .inr ⟨_, .unclosed lexed hdepth, settled⟩

/-- What a text is put in postfix order of can be taken, and names come from the text. -/
theorem readable_of_toPostfix {order : List Token} (h : engine.toPostfix text = .ok order) :
    ∃ tokens, engine.tokenize text = .ok tokens ∧
      ∀ t ∈ order, engine.Readable t ∧ (t.kind = .name → t ∈ tokens) := by
  cases lexed : engine.tokenize text with
  | error cause =>
      rw [Engine.toPostfix, lexed] at h
      cases h
  | ok tokens =>
      rw [Engine.toPostfix, lexed] at h
      have spelled : ∀ t ∈ tokens, t.Spelled := fun t ht => spelled_of_mem_tokenize lexed ht
      refine ⟨tokens, rfl, forall_toPostfix spelled ?_ ?_ ?_ h⟩
      · intro t ht operand
        refine ⟨readable_mark (spelled t ht) operand, fun named => ?_⟩
        rw [Vocabulary.mark] at named ⊢
        split at named
        · cases named
        · next unmarked => rwa [if_neg unmarked]
      · refine fun t ht function => ⟨readable_function (spelled t ht) function, fun named => ?_⟩
        cases named
      · refine fun op => ⟨.operator op, fun named => ?_⟩
        cases named

theorem evaluate_of_toPostfix {order : List Token} (h : engine.toPostfix text = .ok order)
    (table : Option Table) :
    engine.evaluate text table =
      (takeAll ⟨engine.toVocabulary, table⟩ [] order).bind fun stack =>
        match stack with
        | [value] => .ok value
        | stack => .error (.error (.valuesLeft stack.length)) := by
  rw [Engine.evaluate, h]
  rfl

theorem evaluate_value_or_raises (engine : Engine) (table : Option Table) (text : String) :
    (∃ value, engine.evaluate text table = .ok value) ∨
      ∃ cause, engine.Raises table text cause ∧
        engine.evaluate text table = .error (.error cause) := by
  rcases toPostfix_confined engine table text with ⟨order, hpostfix⟩ | ⟨cause, raises, hpostfix⟩
  · obtain ⟨tokens, _, readable⟩ := readable_of_toPostfix hpostfix
    rw [evaluate_of_toPostfix hpostfix]
    rcases @takeAll_readable ⟨engine.toVocabulary, table⟩ [] order
      (fun t ht => (readable t ht).1) with
      ⟨held, htake⟩ | ⟨before, t, behind, held, cause, rfl, hbefore, untaken, htake⟩
    · rw [htake]
      match held with
      | [value] => exact .inl ⟨value, rfl⟩
      | [] => exact .inr ⟨_, .left hpostfix htake (by decide), rfl⟩
      | a :: b :: below => exact .inr ⟨_, .left hpostfix htake (by simp), rfl⟩
    · rw [htake]
      exact .inr ⟨cause, .stopped hpostfix hbefore untaken, rfl⟩
  · refine .inr ⟨cause, raises, ?_⟩
    rw [Engine.evaluate, hpostfix]
    rfl

/-- A name is not recognized only if it stands in the text and is neither a constant nor a
function. -/
theorem unknown_of_raises {table : Option Table} {name : String}
    (raises : engine.Raises table text (.unrecognizedToken name)) :
    engine.constants.has name = false ∧ engine.functions.has name = false ∧
      ∃ tokens, engine.tokenize text = .ok tokens ∧ .name name ∈ tokens := by
  cases raises with
  | @stopped before behind t held _ converted taken untaken =>
      obtain ⟨tokens, lexed, readable⟩ := readable_of_toPostfix converted
      obtain ⟨known, comes⟩ := readable t (by simp)
      cases untaken with
      | operand unresolved =>
          cases unresolved with
          | unknown named =>
              obtain ⟨spelled, noConstant, noFunction⟩ := known.unknown named
              exact ⟨noConstant, noFunction, tokens, lexed, spelled ▸ comes named⟩

/-- The formula of a text has a value or one of the errors and is never at fault itself. In its
postfix order functions and constants are marked only where there are some, so a name that is not
recognized is neither. What counts as a number in a cell can be read as one, and a cell is there
whose row and column are. -/
theorem evaluate_confined (engine : Engine) (table : Option Table) (text : String) :
    ((∃ value, engine.evaluate text table = .ok value) ∨
        ∃ cause, engine.Raises table text cause ∧
          engine.evaluate text table = .error (.error cause)) ∧
      (∀ order, engine.toPostfix text = .ok order → ∀ t ∈ order, engine.Readable t ∧
        (t.kind = .function → engine.functions.has t.text = true) ∧
        (t.kind = .constant → engine.constants.has t.text = true)) ∧
      (∀ name, engine.evaluate text table = .error (.error (.unrecognizedToken name)) →
        engine.constants.has name = false ∧ engine.functions.has name = false ∧
          ∃ tokens, engine.tokenize text = .ok tokens ∧ .name name ∈ tokens) ∧
      (∀ content value, cellDecimal? content = some value →
        Numeral.parse? (String.ofList ((Text.trim content.toList).filter (· != ','))) =
          some (.finite value)) ∧
      ∀ t row column, table = some t → t.hasRow row = true → t.hasColumn column = true →
        ∃ content, t.getCell row column = .ok content := by
  refine ⟨evaluate_value_or_raises engine table text, ?_, ?_, ?_, ?_⟩
  · intro order hpostfix t ht
    obtain ⟨_, _, readable⟩ := readable_of_toPostfix hpostfix
    have known := (readable t ht).1
    exact ⟨known, known.has_function, known.has_constant⟩
  · intro name h
    rcases evaluate_value_or_raises engine table text with ⟨value, hv⟩ | ⟨cause, raises, hc⟩
    · exact nomatch hv.symm.trans h
    · cases hc.symm.trans h
      exact unknown_of_raises raises
  · exact fun _ _ => parse?_of_cellDecimal?
  · exact fun _ _ _ _ hr hc => Table.exists_getCell hr hc

theorem evaluate_confined_root :
    Engine.standard.evaluate "sqrt(x)" none = .error (.error (.unrecognizedToken "x")) ∧
      Engine.standard.constants.has "x" = false ∧ Engine.standard.functions.has "x" = false := by
  have lexed : Engine.standard.tokenize "sqrt(x)" =
      .ok [.name "sqrt", .opening, .name "x", .closing] := by
    change tokenize false "sqrt(x)" = _
    decide +kernel
  have unknown : Engine.standard.evaluate "sqrt(x)" none =
      .error (.error (.unrecognizedToken "x")) := by
    rw [evaluate_eq lexed]
    rfl
  obtain ⟨noConstant, noFunction, _⟩ :=
    (evaluate_confined Engine.standard none "sqrt(x)").2.2.1 "x" unknown
  exact ⟨unknown, noConstant, noFunction⟩

end Texts

end Wordsheet.Formula
