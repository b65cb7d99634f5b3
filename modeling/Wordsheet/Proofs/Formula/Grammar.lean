import Wordsheet.Formula.Postfix
import Wordsheet.Proofs.Formula.Spelling

/-! # The infix grammar of formulas

Expressions are sums of products of factors, as trees with their token lists. Two
conditions that can be checked token by token say the same as a derivation: every
token comes in its turn after the one before it, and every parenthesis is closed.
-/

namespace Wordsheet.Formula

/-! ## Trees and derivations -/

/-- Whether a token is a name that stands for a function; constants come first. -/
def Vocabulary.isFunction (known : Vocabulary) (t : Token) : Bool :=
  t.kind = .name && !known.constants.has t.text && known.functions.has t.text

/-- Whether a token stands for a value of its own: a number, a cell reference, or a name that is no
function. -/
def Vocabulary.isOperand (known : Vocabulary) (t : Token) : Bool :=
  t.kind = .number || t.kind = .cell || (t.kind = .name && !known.isFunction t)

theorem isOperand_name (known : Vocabulary) (text : String) :
    known.isOperand (.name text) = !known.isFunction (.name text) := rfl

/-- An expression without its parentheses. -/
inductive Tree where
  | operand (t : Token)
  | apply (function : Token) (argument : Tree)
  | binary (op : Operator) (left right : Tree)

def Tree.operands : Tree → List Token
  | .operand t => [t]
  | .apply _ argument => argument.operands
  | .binary _ left right => left.operands ++ right.operands

/-- What an expression can be a part of without parentheses. -/
inductive Level where
  | sum
  | product
  | factor

def Level.next : Level → Level
  | .sum => .product
  | .product | .factor => .factor

def Operator.level : Operator → Level
  | .add | .subtract => .sum
  | .multiply | .divide => .product

/-- The expressions of the infix grammar. Sums and products are taken from the left: the right
part of an operator stands one level above its left part. -/
inductive Derives (known : Vocabulary) : Level → List Token → Tree → Prop where
  | operand {t : Token} (h : known.isOperand t = true) : Derives known .factor [t] (.operand t)
  | group {tokens : List Token} {tree : Tree} (inner : Derives known .sum tokens tree) :
      Derives known .factor (.opening :: tokens ++ [.closing]) tree
  | apply {f : Token} {tokens : List Token} {tree : Tree} (h : known.isFunction f = true)
      (inner : Derives known .sum tokens tree) :
      Derives known .factor (f :: .opening :: tokens ++ [.closing]) (.apply f tree)
  | factor {tokens : List Token} {tree : Tree} (whole : Derives known .factor tokens tree) :
      Derives known .product tokens tree
  | product {tokens : List Token} {tree : Tree} (whole : Derives known .product tokens tree) :
      Derives known .sum tokens tree
  | binary {op : Operator} {before after : List Token} {left right : Tree}
      (first : Derives known op.level before left)
      (second : Derives known op.level.next after right) :
      Derives known op.level (before ++ op.token :: after) (.binary op left right)

/-- Whether tokens are an expression of the infix grammar. -/
def Infix (known : Vocabulary) (tokens : List Token) : Prop :=
  ∃ tree, Derives known .sum tokens tree

/-! ## Tokens in turn -/

/-- What has to come next in an expression. -/
inductive Turn where
  | operand
  /-- The parenthesis behind the name of a function. -/
  | parenthesis
  | operator
  deriving DecidableEq

/-- What has to come after a token in its turn; nothing if it is not its turn. -/
def Vocabulary.turnAfter? (known : Vocabulary) (turn : Turn) (t : Token) : Option Turn :=
  match turn, t.kind with
  | .operand, .number | .operand, .cell => some .operator
  | .operand, .name => if known.isFunction t then some .parenthesis else some .operator
  | .operand, .opening | .parenthesis, .opening | .operator, .operator => some .operand
  | .operator, .closing => some .operator
  | _, _ => none

/-- Whether every token comes in its turn and nothing is due at the end. -/
def Vocabulary.inTurn (known : Vocabulary) (turn : Turn) : List Token → Bool
  | [] => turn = .operator
  | t :: rest => (known.turnAfter? turn t).any fun next => known.inTurn next rest

/-! ## Depth of parentheses -/

/-- The number of parentheses that are open after tokens; nothing if one is closed that is not
open. -/
def depthAfter (depth : Nat) : List Token → Option Nat
  | [] => some depth
  | t :: rest =>
      match t.kind with
      | .opening => depthAfter (depth + 1) rest
      | .closing => if depth = 0 then none else depthAfter (depth - 1) rest
      | _ => depthAfter depth rest

@[simp] theorem depthAfter_opening (depth : Nat) (rest : List Token) :
    depthAfter depth (.opening :: rest) = depthAfter (depth + 1) rest := rfl

@[simp] theorem depthAfter_closing_succ (depth : Nat) (rest : List Token) :
    depthAfter (depth + 1) (.closing :: rest) = depthAfter depth rest := rfl

@[simp] theorem depthAfter_closing_zero (rest : List Token) :
    depthAfter 0 (.closing :: rest) = none := rfl

theorem depthAfter_cons {t : Token} (depth : Nat) (rest : List Token) (ho : t.kind ≠ .opening)
    (hc : t.kind ≠ .closing) : depthAfter depth (t :: rest) = depthAfter depth rest := by
  rw [depthAfter]
  split <;> simp_all

/-! ## Derived tokens come in turn -/

theorem inTurn_cons {known : Vocabulary} {turn next : Turn} {t : Token}
    (h : known.turnAfter? turn t = some next) (rest : List Token) :
    known.inTurn turn (t :: rest) = known.inTurn next rest := by
  simp [Vocabulary.inTurn, h]

theorem turnAfter?_of_inTurn {known : Vocabulary} {turn : Turn} {t : Token} {rest : List Token}
    (h : known.inTurn turn (t :: rest) = true) :
    ∃ next, known.turnAfter? turn t = some next ∧ known.inTurn next rest = true := by
  simpa [Vocabulary.inTurn, Option.any_eq_true] using h

theorem kind_of_isFunction {known : Vocabulary} {t : Token} (h : known.isFunction t = true) :
    t.kind = .name := by
  simp only [Vocabulary.isFunction, Bool.and_eq_true, decide_eq_true_eq] at h
  exact h.1.1

theorem turnAfter?_operand {known : Vocabulary} {t : Token} (h : known.isOperand t = true) :
    known.turnAfter? .operand t = some .operator := by
  simp only [Vocabulary.isOperand, Bool.or_eq_true, Bool.and_eq_true, decide_eq_true_eq,
    Bool.not_eq_true'] at h
  rcases h with (h | h) | ⟨h, hf⟩ <;> simp [Vocabulary.turnAfter?, h]
  exact hf

theorem turnAfter?_function {known : Vocabulary} {t : Token} (h : known.isFunction t = true) :
    known.turnAfter? .operand t = some .parenthesis := by
  simp [Vocabulary.turnAfter?, kind_of_isFunction h, h]

theorem inTurn_of_derives {known : Vocabulary} {level : Level} {tokens : List Token} {tree : Tree}
    (derived : Derives known level tokens tree) (rest : List Token) :
    known.inTurn .operand (tokens ++ rest) = known.inTurn .operator rest := by
  induction derived generalizing rest with
  | operand h => exact inTurn_cons (turnAfter?_operand h) rest
  | group _ ih =>
      have hi := ih (.closing :: rest)
      simp only [List.cons_append, List.append_assoc, List.nil_append]
      exact hi
  | apply h _ ih =>
      have hi := ih (.closing :: rest)
      simp only [List.cons_append, List.append_assoc, List.nil_append]
      rw [inTurn_cons (turnAfter?_function h)]
      exact hi
  | factor _ ih => exact ih rest
  | product _ ih => exact ih rest
  | @binary op _ after _ _ _ _ ihFirst ihSecond =>
      rw [List.append_assoc, ihFirst, List.cons_append]
      exact ihSecond rest

/-! ## Tokens in turn are derived -/

theorem derives_sum {known : Vocabulary} {level : Level} {tokens : List Token} {tree : Tree}
    (derived : Derives known level tokens tree) : Derives known .sum tokens tree := by
  cases level with
  | sum => exact derived
  | product => exact .product derived
  | factor => exact .product (.factor derived)

/-- A sum is one product, or a sum and a product with an operator between them. -/
theorem product_or_binary_of_sum {known : Vocabulary} {level : Level} {tokens : List Token}
    {tree : Tree} (derived : Derives known level tokens tree) (hl : level = .sum) :
    Derives known .product tokens tree ∨
      ∃ (op : Operator) (before after : List Token) (left right : Tree),
        op.level = .sum ∧ tokens = before ++ op.token :: after ∧
          Derives known .sum before left ∧ Derives known .product after right := by
  cases derived with
  | operand | group | apply | factor => cases hl
  | product whole => exact .inl whole
  | @binary op before after left right first second =>
      rw [hl] at first second
      exact .inr ⟨op, before, after, left, right, hl, rfl, first, second⟩

theorem derives_binary {known : Vocabulary} {level : Level} {op : Operator}
    {before after : List Token} {left right : Tree} (hl : op.level = level)
    (first : Derives known level before left) (second : Derives known level.next after right) :
    Derives known level (before ++ op.token :: after) (.binary op left right) := by
  subst hl
  exact .binary first second

/-- An operator and a factor behind an expression belong to all of it or to its last product. -/
theorem infix_snoc {known : Vocabulary} {before after : List Token} {left right : Tree}
    (op : Operator) (first : Derives known .sum before left)
    (second : Derives known .factor after right) : Infix known (before ++ op.token :: after) := by
  cases hl : op.level with
  | factor => cases op <;> cases hl
  | sum => exact ⟨_, derives_binary hl first (.factor second)⟩
  | product =>
      rcases product_or_binary_of_sum first rfl with
        whole | ⟨op', start, last, sumTree, lastTree, hl', rfl, hs, hp⟩
      · exact ⟨_, .product (derives_binary hl whole second)⟩
      · have lastProduct := derives_binary hl hp second
        rw [List.append_assoc, List.cons_append]
        exact ⟨_, derives_binary hl' hs lastProduct⟩

section Reading

variable {known : Vocabulary} {turn next : Turn} {depth : Nat} {t : Token}
  {tokens rest : List Token}

/-- What may follow in a formula: spelled tokens, in turn from some turn on, that close as many
parentheses as are open. -/
structure Due (known : Vocabulary) (turn : Turn) (depth : Nat) (tokens : List Token) : Prop where
  spelled : ∀ t ∈ tokens, t.Spelled
  turns : known.inTurn turn tokens = true
  closed : depthAfter depth tokens = some 0

theorem Due.opening (due : Due known turn depth (.opening :: rest)) :
    Due known .operand (depth + 1) rest := by
  obtain ⟨next, hn, turns⟩ := turnAfter?_of_inTurn due.turns
  refine ⟨fun t h => due.spelled t (List.mem_cons_of_mem _ h), ?_, due.closed⟩
  cases turn <;> simp [Vocabulary.turnAfter?, Token.opening] at hn
  all_goals
    subst hn
    exact turns

theorem Due.closing (due : Due known .operator depth (.closing :: rest)) :
    ∃ outer, depth = outer + 1 ∧ Due known .operator outer rest := by
  obtain ⟨spelled, turns, closed⟩ := due
  cases depth with
  | zero => simp at closed
  | succ outer =>
      refine ⟨outer, rfl, fun t h => spelled t (List.mem_cons_of_mem _ h), ?_, closed⟩
      exact turns

theorem Due.plain (due : Due known turn depth (t :: rest)) (h : known.turnAfter? turn t = some next)
    (ho : t.kind ≠ .opening) (hc : t.kind ≠ .closing) : Due known next depth rest :=
  ⟨fun u hu => due.spelled u (List.mem_cons_of_mem t hu), inTurn_cons h rest ▸ due.turns,
    depthAfter_cons depth rest ho hc ▸ due.closed⟩

def Stops (tokens : List Token) : Prop :=
  tokens = [] ∨ ∃ rest, tokens = .closing :: rest

/-- Where an expression stops inside a parenthesis, the parenthesis is closed. -/
theorem Due.closing_of_stops (due : Due known .operator (depth + 1) tokens) (stops : Stops tokens) :
    ∃ rest, tokens = .closing :: rest ∧ Due known .operator depth rest := by
  rcases stops with rfl | ⟨rest, rfl⟩
  · exact absurd due.closed (by simp [depthAfter])
  · obtain ⟨outer, ho, after⟩ := due.closing
    cases ho
    exact ⟨rest, rfl, after⟩

theorem length_pos_of_derives {level : Level} {tree : Tree}
    (derived : Derives known level tokens tree) : 0 < tokens.length := by
  induction derived with
  | operand | group | apply => simp
  | factor _ ih | product _ ih => exact ih
  | binary =>
      rw [List.length_append, List.length_cons]
      omega

/-! Each reader takes the longest expression of its sort and recurs on what is left, so the
lengths decrease; a parenthesis leads from a factor back to a sum. -/

mutual

theorem reads_factor (tokens : List Token) (depth : Nat) (due : Due known .operand depth tokens) :
    ∃ read rest tree, tokens = read ++ rest ∧ Derives known .factor read tree ∧
      Due known .operator depth rest := by
  cases tokens with
  | nil => exact absurd due.turns (by simp [Vocabulary.inTurn])
  | cons t rest =>
      obtain ⟨next, hn, turns⟩ := turnAfter?_of_inTurn due.turns
      have operand (h : known.isOperand t = true) (ho : t.kind ≠ .opening)
          (hc : t.kind ≠ .closing) :
          ∃ read rest' tree, t :: rest = read ++ rest' ∧ Derives known .factor read tree ∧
            Due known .operator depth rest' :=
        ⟨[t], rest, .operand t, rfl, .operand h, due.plain (turnAfter?_operand h) ho hc⟩
      cases due.spelled t List.mem_cons_self with
      | number | cell => exact operand rfl nofun nofun
      | @name text named =>
          cases hf : known.isFunction (.name text) with
          | false => exact operand (by rw [isOperand_name, hf]; rfl) nofun nofun
          | true =>
              have dueArgument := due.plain (turnAfter?_function hf) nofun nofun
              cases rest with
              | nil => exact absurd dueArgument.turns (by simp [Vocabulary.inTurn])
              | cons u rest =>
                  obtain ⟨_, hu, _⟩ := turnAfter?_of_inTurn dueArgument.turns
                  cases dueArgument.spelled u List.mem_cons_self with
                  | opening =>
                      obtain ⟨inner, after, tree, rfl, derived, dueAfter⟩ :=
                        reads_group rest depth dueArgument.opening
                      exact ⟨_ :: .opening :: inner ++ [.closing], after, _, by simp,
                        .apply hf derived, dueAfter⟩
                  | number | cell | name | operator | closing | comma => cases hu
      | opening =>
          obtain ⟨inner, after, tree, rfl, derived, dueAfter⟩ := reads_group rest depth due.opening
          exact ⟨.opening :: inner ++ [.closing], after, tree, by simp, .group derived, dueAfter⟩
      | operator | closing | comma => cases hn
termination_by (tokens.length, 0)

theorem reads_group (tokens : List Token) (depth : Nat)
    (due : Due known .operand (depth + 1) tokens) :
    ∃ inner rest tree, tokens = inner ++ .closing :: rest ∧ Derives known .sum inner tree ∧
      Due known .operator depth rest := by
  obtain ⟨inner, rest, stops, hr, ⟨tree, derived⟩, dueRest⟩ := reads_sum tokens (depth + 1) due
  obtain ⟨after, rfl, dueAfter⟩ := dueRest.closing_of_stops stops
  exact ⟨inner, after, tree, hr, derived, dueAfter⟩
termination_by (tokens.length, 2)

theorem reads_sum (tokens : List Token) (depth : Nat) (due : Due known .operand depth tokens) :
    ∃ read rest, Stops rest ∧ tokens = read ++ rest ∧ Infix known read ∧
      Due known .operator depth rest := by
  obtain ⟨read, rest, tree, hr, derived, dueRest⟩ := reads_factor tokens depth due
  have hpos := length_pos_of_derives derived
  have hlen : rest.length < tokens.length := by
    rw [hr, List.length_append]
    omega
  obtain ⟨more, rest', stops, rfl, derivedMore, dueMore⟩ :=
    reads_more read rest depth ⟨tree, derives_sum derived⟩ dueRest
  exact ⟨read ++ more, rest', stops, by rw [hr, List.append_assoc], derivedMore, dueMore⟩
termination_by (tokens.length, 1)

theorem reads_more (before tokens : List Token) (depth : Nat) (first : Infix known before)
    (due : Due known .operator depth tokens) :
    ∃ read rest, Stops rest ∧ tokens = read ++ rest ∧ Infix known (before ++ read) ∧
      Due known .operator depth rest := by
  cases tokens with
  | nil => exact ⟨[], [], .inl rfl, rfl, by rwa [List.append_nil], due⟩
  | cons t rest =>
      obtain ⟨next, hn, turns⟩ := turnAfter?_of_inTurn due.turns
      cases due.spelled t List.mem_cons_self with
      | operator op =>
          have dueSecond : Due known .operand depth rest := due.plain rfl nofun nofun
          obtain ⟨read, after, tree, hr, derived, dueAfter⟩ := reads_factor rest depth dueSecond
          have hlen : after.length < rest.length + 1 := by
            rw [hr, List.length_append]
            omega
          obtain ⟨left, whole⟩ := first
          have joined := infix_snoc op whole derived
          obtain ⟨more, last, stops, rfl, derivedMore, dueMore⟩ :=
            reads_more (before ++ op.token :: read) after depth joined dueAfter
          exact ⟨op.token :: read ++ more, last, stops, by simp [hr], by simpa using derivedMore,
            dueMore⟩
      | closing => exact ⟨[], _, .inr ⟨rest, rfl⟩, rfl, by rwa [List.append_nil], due⟩
      | number | cell | name | opening | comma => cases hn
termination_by (tokens.length, 0)

end

/-- Tokens of a text are an expression as soon as they come in turn and close what they open. -/
theorem infix_of_inTurn (spelled : ∀ t ∈ tokens, t.Spelled)
    (turns : known.inTurn .operand tokens = true) (closed : depthAfter 0 tokens = some 0) :
    Infix known tokens := by
  obtain ⟨read, rest, stops, hr, derived, due⟩ := reads_sum tokens 0 ⟨spelled, turns, closed⟩
  rcases stops with rfl | ⟨after, rfl⟩
  · rwa [hr, List.append_nil]
  · obtain ⟨outer, ho, _⟩ := due.closing
    cases ho

end Reading

end Wordsheet.Formula
