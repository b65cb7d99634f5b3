import Wordsheet.Proofs.Catalog
import Wordsheet.Proofs.Formula.Confinement

/-! # What a formula depends on

A formula reads constants under the names that stand in it and cells under its references, and
nothing else. So two scopes that look alike there give it one value, or one error.
-/

namespace Wordsheet.Formula

/-- Whether two scopes look alike to tokens: the names among these stand for the same constants,
or for none, and the references for the same text, or for no cell, in tables of one name. -/
structure Alike (tokens : List Token) (a b : Scope) : Prop where
  functions : a.functions = b.functions
  constants : ∀ name, .name name ∈ tokens → a.constants.value? name = b.constants.value? name
  table : a.table.map Table.name = b.table.map Table.name
  cells : ∀ row column, .cellRef row column ∈ tokens →
    (a.table.map fun t => (t.getCell row column).toOption) =
      b.table.map fun t => (t.getCell row column).toOption

section Tokens

variable {tokens : List Token} {a b : Scope} {t : Token}

theorem Alike.tail (alike : Alike (t :: tokens) a b) : Alike tokens a b where
  functions := alike.functions
  constants name h := alike.constants name (List.mem_cons_of_mem t h)
  table := alike.table
  cells row column h := alike.cells row column (List.mem_cons_of_mem t h)

theorem Alike.has (alike : Alike tokens a b) {name : String} (h : .name name ∈ tokens) :
    a.constants.has name = b.constants.has name := by
  rw [has_eq_isSome, has_eq_isSome, alike.constants name h]

theorem Alike.cellValue (alike : Alike tokens a b) {row column : String}
    (h : .cellRef row column ∈ tokens) :
    cellValue a.table (.cellRef row column) = cellValue b.table (.cellRef row column) := by
  have named := alike.table
  have same := alike.cells row column h
  cases ha : a.table with
  | none =>
      rw [ha, Option.map_none, eq_comm, Option.map_eq_none_iff] at named
      rw [named]
  | some first =>
      rw [ha, Option.map_some, eq_comm, Option.map_eq_some_iff] at named
      obtain ⟨second, hb, named⟩ := named
      rw [ha, hb, Option.map_some, Option.map_some, Option.some.injEq, ← cellText?_eq,
        ← cellText?_eq] at same
      rw [hb]
      simp only [Formula.cellValue, Token.cellRef, same, named]

/-- Names that stand in a text are sorted alike, so its tokens come in one order. -/
theorem Alike.postfixFrom (alike : Alike tokens a b) (waiting : List Token)
    (spelled : ∀ t ∈ tokens, t.Spelled) :
    postfixFrom a.toVocabulary waiting tokens = postfixFrom b.toVocabulary waiting tokens := by
  induction tokens generalizing waiting with
  | nil => rfl
  | cons t rest ih =>
      have next (still : List Token) := ih alike.tail still
        fun u hu => spelled u (List.mem_cons_of_mem t hu)
      cases spelled t List.mem_cons_self with
      | name =>
          simp only [Formula.postfixFrom, Token.name, next]
          rw [alike.has List.mem_cons_self, alike.functions]
          rfl
      | number | cell | operator | opening | closing | comma =>
          simp only [Formula.postfixFrom, Token.number, Token.cellRef, Operator.token,
            Token.opening, Token.closing, Token.comma, next]

theorem Alike.mark (alike : Alike tokens a b) (h : t ∈ tokens) (spelled : t.Spelled) :
    a.mark t = b.mark t := by
  cases spelled with
  | @name text =>
      have same : a.constants.has (Token.name text).text = b.constants.has text := alike.has h
      rw [Vocabulary.mark, Vocabulary.mark, same]
      rfl
  | number | cell | operator | opening | closing | comma => rfl

theorem Alike.isOperand (alike : Alike tokens a b) (h : t ∈ tokens) (spelled : t.Spelled) :
    a.isOperand t = b.isOperand t := by
  cases spelled with
  | @name text =>
      have same : a.constants.has (Token.name text).text = b.constants.has text := alike.has h
      rw [isOperand_name, isOperand_name, Vocabulary.isFunction, Vocabulary.isFunction, same,
        alike.functions]
      rfl
  | number | cell | operator | opening | closing | comma => rfl

theorem Alike.operand? (alike : Alike tokens a b) (h : t ∈ tokens) (spelled : t.Spelled)
    (operand : a.isOperand t = true) : operand? a t = operand? b t := by
  cases spelled with
  | number => rfl
  | cell => exact alike.cellValue h
  | name => rw [operand?_name, operand?_name, alike.constants _ h]
  | operator | opening | closing | comma => cases operand

theorem Alike.take_operand (alike : Alike tokens a b) (h : t ∈ tokens) (spelled : t.Spelled)
    (operand : a.isOperand t = true) (stack : List Float) :
    take a stack (a.mark t) = take b stack (a.mark t) := by
  have also : b.isOperand t = true := alike.isOperand h spelled ▸ operand
  rw [Formula.take_operand stack spelled operand, alike.mark h spelled,
    Formula.take_operand stack spelled also, alike.operand? h spelled operand]

/-- Tokens that come from a text are taken alike, one by one. -/
theorem Alike.take (alike : Alike tokens a b) (spelled : ∀ t ∈ tokens, t.Spelled)
    {order : List Token} (h : Formula.postfixFrom a.toVocabulary [] tokens = .ok order) :
    ∀ t ∈ order, ∀ stack, take a stack t = take b stack t := by
  -- operators and functions read neither constants nor cells
  refine forall_toPostfix spelled ?_ ?_ (fun op stack => rfl) h
  · exact fun t ht operand => alike.take_operand ht (spelled t ht) operand
  · intro t ht function stack
    have kind : (t.marked .function).kind = .function := rfl
    simp only [Formula.take, kind, alike.functions]

theorem takeAll_congr {order : List Token}
    (h : ∀ t ∈ order, ∀ stack, take a stack t = take b stack t) (stack : List Float) :
    takeAll a stack order = takeAll b stack order := by
  induction order generalizing stack with
  | nil => rfl
  | cons t rest ih =>
      rw [takeAll_cons, takeAll_cons, h t List.mem_cons_self]
      exact congrArg _ (funext fun below => ih (fun u hu => h u (List.mem_cons_of_mem t hu)) below)

end Tokens

/-! ## Texts -/

section Texts

variable {engine : Engine} {constants : Constants} {text : String} {table other : Option Table}

theorem evaluate_of_alike
    (alike : ∀ tokens, engine.tokenize text = .ok tokens →
      Alike tokens ⟨engine.toVocabulary, table⟩ ⟨⟨constants, engine.functions⟩, other⟩) :
    Engine.evaluate { engine with constants } text other = engine.evaluate text table := by
  cases lexed : engine.tokenize text with
  | error cause =>
      have also : Engine.tokenize { engine with constants } text = .error cause := lexed
      rw [Engine.evaluate, Engine.evaluate, Engine.toPostfix, Engine.toPostfix, lexed, also]
      rfl
  | ok tokens =>
      have also : Engine.tokenize { engine with constants } text = .ok tokens := lexed
      have same := alike tokens lexed
      have spelled : ∀ t ∈ tokens, t.Spelled := fun t ht => spelled_of_mem_tokenize lexed ht
      rw [evaluate_eq lexed, evaluate_eq also, toPostfix, toPostfix, ← same.postfixFrom [] spelled]
      cases converted : postfixFrom engine.toVocabulary [] tokens with
      | error cause => rfl
      | ok order =>
          change (takeAll _ [] order).bind _ = (takeAll _ [] order).bind _
          rw [takeAll_congr (same.take spelled converted) []]

theorem register_eq_ok {name : String} {value : Float} {made : Engine}
    (h : engine.register name value = .ok made) :
    made = { engine with constants := engine.constants.put ⟨name, value⟩ } := by
  rw [Engine.register, Constants.register] at h
  split at h
  · cases h
    rfl
  · cases h

/-- A constant that is put is new under its own name only, in any letter case. -/
theorem alike_put {tokens : List Token} {name : String} (value : Float)
    (apart : ∀ mention, .name mention ∈ tokens →
      Text.capitalLetters mention ≠ Text.capitalLetters name) :
    Alike tokens ⟨engine.toVocabulary, table⟩
      ⟨⟨engine.constants.put ⟨name, value⟩, engine.functions⟩, table⟩ where
  functions := rfl
  constants mention hm := by
    have found : (engine.constants.put ⟨name, value⟩).get? (Text.capitalLetters mention) =
        engine.constants.get? (Text.capitalLetters mention) :=
      (Catalog.get?_put ..).trans (if_neg (apart mention hm))
    exact congrArg (Option.map Constant.value) found.symm
  table := rfl
  cells _ _ _ := rfl

/-- A formula depends only on what it mentions: on the constants under its names and on the text
behind its references, which is that of the table. A constant of another name changes nothing. -/
theorem evaluate_mentioned (engine : Engine) (text : String) (table : Option Table) :
    (∀ constants other, (∀ tokens, engine.tokenize text = .ok tokens →
        Alike tokens ⟨engine.toVocabulary, table⟩ ⟨⟨constants, engine.functions⟩, other⟩) →
      Engine.evaluate { engine with constants } text other = engine.evaluate text table) ∧
    (∀ (t : Table) (row column : String),
      cellText? t row column = (t.getCell row column).toOption) ∧
    ∀ name value made, engine.register name value = .ok made →
      (∀ tokens, engine.tokenize text = .ok tokens → ∀ mention, .name mention ∈ tokens →
        Text.capitalLetters mention ≠ Text.capitalLetters name) →
      made.evaluate text table = engine.evaluate text table := by
  refine ⟨fun _ _ alike => evaluate_of_alike alike, cellText?_eq, ?_⟩
  intro name value made registered apart
  rw [register_eq_ok registered]
  exact evaluate_of_alike fun tokens lexed => alike_put value (apart tokens lexed)

theorem evaluate_mentioned_reference :
    ∃ (first second : Table) (constants : Constants),
      first.columns ≠ second.columns ∧ constants.has "tau" ≠ Constants.standard.has "tau" ∧
      Engine.standard.tokenize "r.c * 2" =
        .ok [.cellRef "r" "c", Operator.multiply.token, .number "2"] ∧
      Engine.evaluate { Engine.standard with constants } "r.c * 2" (some second) =
        Engine.standard.evaluate "r.c * 2" (some first) := by
  have lexed : Engine.standard.tokenize "r.c * 2" =
      .ok [.cellRef "r" "c", Operator.multiply.token, .number "2"] := by
    change tokenize false "r.c * 2" = _
    decide +kernel
  let first : Table := ⟨"T", ["c"], Catalog.empty.put ⟨"r", ["7"]⟩⟩
  let second : Table :=
    ⟨"T", ["d", "c"], (Catalog.empty.put ⟨"q", ["1"]⟩).put ⟨"r", ["", "7"]⟩⟩
  let constants : Constants := Constants.standard.put ⟨"tau", 6.28⟩
  refine ⟨first, second, constants, by decide, by decide, lexed, ?_⟩
  refine (evaluate_mentioned Engine.standard "r.c * 2" (some first)).1 _ _ fun tokens h => ?_
  cases lexed.symm.trans h
  refine ⟨rfl, fun name hm => ?_, rfl, fun row column hm => ?_⟩
  · simp [Token.name, Token.cellRef, Operator.token, Token.number] at hm
  · simp only [Token.cellRef, Operator.token, Token.number, List.mem_cons, List.not_mem_nil,
      Token.mk.injEq, Option.some.injEq, reduceCtorEq, false_and, or_false, true_and] at hm
    obtain ⟨_, rfl, rfl⟩ := hm
    rfl

end Texts

end Wordsheet.Formula
