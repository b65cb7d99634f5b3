import Wordsheet.Proofs.Formula.Meaning

/-! # Postfix order and trees

Tokens whose operands all have a value leave one value exactly if they are the postorder of a tree,
and then that tree is the only one and the value is its value. If they are not, the error tells
whether the first token without enough operands is a function.

The stack machine is followed by one that keeps trees in the place of their values.
-/

namespace Wordsheet.Formula

/-! ## Postorder -/

/-- The number of values that a token takes off the stack. -/
def Token.arity (t : Token) : Nat :=
  match t.kind with
  | .operator => 2
  | .function => 1
  | _ => 0

/-- The postorder of a tree: what is applied stands behind what it is applied to. -/
inductive Tree.Postorder : Tree → List Token → Prop where
  | operand {t : Token} (h : t.arity = 0) : Postorder (.operand t) [t]
  | apply {f : Token} {argument : Tree} {tokens : List Token} (h : f.kind = .function)
      (inner : Postorder argument tokens) : Postorder (.apply f argument) (tokens ++ [f])
  | binary {t : Token} {op : Operator} {left right : Tree} {before after : List Token}
      (h : t.kind = .operator) (sign : Operator.ofText? t.text = some op)
      (first : Postorder left before) (second : Postorder right after) :
      Postorder (.binary op left right) (before ++ after ++ [t])

/-- The tokens that can be taken as soon as enough values wait for them: numbers that can be read,
references to cells with a number, known constants, known functions and operators. -/
inductive Scope.Usable (scope : Scope) (t : Token) : Prop where
  | number {numeral : Numeral} (kind : t.kind = .number)
      (h : Numeral.parse? t.text = some numeral)
  | cell {value : Float} (kind : t.kind = .cell) (h : cellValue scope.table t = .ok value)
  | constant (kind : t.kind = .constant) (h : scope.constants.has t.text = true)
  | function (kind : t.kind = .function) (h : scope.functions.has t.text = true)
  | operator {op : Operator} (kind : t.kind = .operator) (h : Operator.ofText? t.text = some op)

/-! ## A machine for trees -/

def plant (stack : List Tree) (t : Token) : Option (List Tree) :=
  match t.kind with
  | .operator =>
      match stack with
      | right :: left :: below =>
          (Operator.ofText? t.text).map fun op => .binary op left right :: below
      | _ => none
  | .function =>
      match stack with
      | argument :: below => some (.apply t argument :: below)
      | [] => none
  | _ => some (.operand t :: stack)

def plantAll (stack : List Tree) (tokens : List Token) : Option (List Tree) :=
  tokens.foldlM plant stack

/-- The postorder of trees that wait. -/
inductive Waiting : List Tree → List Token → Prop where
  | nil : Waiting [] []
  | cons {tree : Tree} {below : List Tree} {before tokens : List Token}
      (rest : Waiting below before) (last : tree.Postorder tokens) :
      Waiting (tree :: below) (before ++ tokens)

section Trees

variable {t : Token} {tokens before : List Token} {stack made : List Tree} {tree : Tree}

theorem plant_operand (h : t.arity = 0) (stack : List Tree) :
    plant stack t = some (.operand t :: stack) := by
  unfold Token.arity at h
  unfold plant
  cases hk : t.kind <;> simp [hk] at h ⊢

theorem plant_function (h : t.kind = .function) (argument : Tree) (below : List Tree) :
    plant (argument :: below) t = some (.apply t argument :: below) := by
  simp [plant, h]

theorem plant_operator {op : Operator} (h : t.kind = .operator)
    (sign : Operator.ofText? t.text = some op) (left right : Tree) (below : List Tree) :
    plant (right :: left :: below) t = some (.binary op left right :: below) := by
  simp [plant, h, sign]

theorem plantAll_cons (stack : List Tree) (t : Token) (rest : List Token) :
    plantAll stack (t :: rest) = (plant stack t).bind fun next => plantAll next rest := by
  rw [plantAll, List.foldlM_cons]
  rfl

/-- A token adds itself to the postorder of what waits. -/
theorem waiting_plant (waiting : Waiting stack before) (h : plant stack t = some made) :
    Waiting made (before ++ [t]) := by
  unfold plant at h
  split at h
  · next kind =>
      split at h
      · next right left below =>
          obtain ⟨op, sign, rfl⟩ := Option.map_eq_some_iff.1 h
          cases waiting with
          | cons rest second =>
              cases rest with
              | cons rest first =>
                  rw [List.append_assoc, List.append_assoc, ← List.append_assoc _ _ [t]]
                  exact .cons rest (.binary kind sign first second)
      · cases h
  · next kind =>
      split at h
      · next argument below =>
          cases h
          cases waiting with
          | cons rest inner =>
              rw [List.append_assoc]
              exact .cons rest (.apply kind inner)
      · cases h
  · next operator function =>
      cases h
      refine .cons waiting (.operand ?_)
      unfold Token.arity
      split <;> simp_all

theorem waiting_plantAll (waiting : Waiting stack before) (h : plantAll stack tokens = some made) :
    Waiting made (before ++ tokens) := by
  induction tokens generalizing stack before with
  | nil =>
      cases h
      rwa [List.append_nil]
  | cons t rest ih =>
      rw [plantAll_cons] at h
      obtain ⟨next, planted, h⟩ := Option.bind_eq_some_iff.1 h
      rw [List.append_cons]
      exact ih (waiting_plant waiting planted) h

/-- The postorder of a tree leaves the tree on what waits, whatever follows. -/
theorem plantAll_postorder (order : tree.Postorder tokens) (stack : List Tree)
    (rest : List Token) : plantAll stack (tokens ++ rest) = plantAll (tree :: stack) rest := by
  induction order generalizing stack rest with
  | operand h =>
      rw [List.singleton_append, plantAll_cons, plant_operand h]
      rfl
  | apply h _ ih =>
      rw [List.append_assoc, ih, List.singleton_append, plantAll_cons, plant_function h]
      rfl
  | binary h sign _ _ ihFirst ihSecond =>
      rw [List.append_assoc, List.append_assoc, ihFirst, ihSecond, List.singleton_append,
        plantAll_cons, plant_operator h sign]
      rfl

/-- Tokens are the postorder of a tree exactly if that tree alone is left. -/
theorem postorder_iff_plantAll : tree.Postorder tokens ↔ plantAll [] tokens = some [tree] := by
  constructor
  · intro order
    rw [← List.append_nil tokens, plantAll_postorder order]
    rfl
  · intro h
    cases waiting_plantAll .nil h with
    | cons rest last =>
        cases rest
        exact last

end Trees

/-! ## Values -/

/-- The number of values that wait after tokens are taken in order; nothing if too few wait for one
of them. -/
def heightAfter (height : Nat) : List Token → Option Nat
  | [] => some height
  | t :: rest => if t.arity ≤ height then heightAfter (height - t.arity + 1) rest else none

/-- Whether a token is the first of some for which too few values wait. -/
def FirstShort (height : Nat) (tokens : List Token) (t : Token) : Prop :=
  ∃ before after left, tokens = before ++ t :: after ∧ heightAfter height before = some left ∧
    left < t.arity

/-- The cause for which a token is not taken when too few values wait. -/
def Token.shortage (t : Token) : Error :=
  if t.kind = .function then .missingArgument t.text else .missingOperand t.text

def values (scope : Scope) (trees : List Tree) : List Float :=
  trees.map (Tree.value scope)

section Values

variable {scope : Scope} {t : Token} {tokens : List Token} {stack made : List Tree} {tree : Tree}

/-- A token that can be used is taken when enough values wait: it does to them what it does to
trees. -/
theorem take_of_arity_le (usable : scope.Usable t) (h : t.arity ≤ stack.length) :
    ∃ next, plant stack t = some next ∧ next.length = stack.length - t.arity + 1 ∧
      take scope (values scope stack) t = .ok (values scope next) := by
  cases usable with
  | number kind hn =>
      have arity : t.arity = 0 := by rw [Token.arity, kind]
      refine ⟨_, plant_operand arity stack, by simp [arity], ?_⟩
      simp [take, kind, hn, values, Tree.value, operand?]
  | cell kind hv =>
      have arity : t.arity = 0 := by rw [Token.arity, kind]
      refine ⟨_, plant_operand arity stack, by simp [arity], ?_⟩
      simp only [take, kind, hv, values, List.map_cons, Tree.value, operand?]
      rfl
  | constant kind known =>
      rw [has_eq_isSome] at known
      obtain ⟨value, hv⟩ := Option.isSome_iff_exists.1 known
      have arity : t.arity = 0 := by rw [Token.arity, kind]
      refine ⟨_, plant_operand arity stack, by simp [arity], ?_⟩
      simp [take, kind, hv, values, Tree.value, operand?]
  | function kind known =>
      rw [Functions.has, ← Catalog.get?_isSome] at known
      obtain ⟨f, hf⟩ := Option.isSome_iff_exists.1 known
      have arity : t.arity = 1 := by rw [Token.arity, kind]
      rcases stack with _ | ⟨argument, below⟩
      · simp [arity] at h
      · refine ⟨_, plant_function kind argument below, by simp [arity], ?_⟩
        simp [take, kind, applyFunction, Functions.named?, hf, values, Tree.value]
        rfl
  | operator kind sign =>
      have arity : t.arity = 2 := by rw [Token.arity, kind]
      rcases stack with _ | ⟨right, _ | ⟨left, below⟩⟩
      · simp [arity] at h
      · simp [arity] at h
      · refine ⟨_, plant_operator kind sign left right below, by simp [arity], ?_⟩
        simp [take, kind, applyOperator, sign, values, Tree.value]
        rfl

theorem take_of_lt_arity (usable : scope.Usable t) (h : stack.length < t.arity) :
    plant stack t = none ∧ take scope (values scope stack) t = .error (.error t.shortage) := by
  cases usable with
  | number kind | cell kind | constant kind => simp [Token.arity, kind] at h
  | function kind known =>
      rw [Functions.has, ← Catalog.get?_isSome] at known
      obtain ⟨f, hf⟩ := Option.isSome_iff_exists.1 known
      rcases stack with _ | ⟨argument, below⟩
      · refine ⟨by simp [plant, kind], ?_⟩
        simp [take, kind, applyFunction, Functions.named?, hf, values, Token.shortage]
        rfl
      · simp [Token.arity, kind] at h
  | operator kind sign =>
      have taken (stack : List Float) :
          take scope stack t = (applyOperator stack t).mapError .error := by
        rw [take, kind]
      have cause : t.shortage = .missingOperand t.text := by simp [Token.shortage, kind]
      rw [taken, cause]
      rcases stack with _ | ⟨right, _ | ⟨left, below⟩⟩
      · exact ⟨by simp [plant, kind], rfl⟩
      · exact ⟨by simp [plant, kind], rfl⟩
      · simp only [Token.arity, kind, List.length_cons] at h
        omega

/-- Tokens that can be used are all taken, or one of them is the first for which too few values
wait. -/
theorem takeAll_or_firstShort (usable : ∀ t ∈ tokens, scope.Usable t) (stack : List Tree) :
    (∃ made, plantAll stack tokens = some made ∧
      heightAfter stack.length tokens = some made.length ∧
      takeAll scope (values scope stack) tokens = .ok (values scope made)) ∨
    ∃ t ∈ tokens, FirstShort stack.length tokens t ∧ plantAll stack tokens = none ∧
      takeAll scope (values scope stack) tokens = .error (.error t.shortage) := by
  induction tokens generalizing stack with
  | nil => exact .inl ⟨stack, rfl, rfl, rfl⟩
  | cons t rest ih =>
      obtain ⟨first, others⟩ := List.forall_mem_cons.1 usable
      rw [plantAll_cons, takeAll_cons, heightAfter]
      by_cases h : t.arity ≤ stack.length
      · obtain ⟨next, planted, height, taken⟩ := take_of_arity_le first h
        rw [if_pos h, ← height, planted, taken]
        rcases ih others next with
          whole | ⟨u, hu, ⟨before, after, left, hr, hleft, short⟩, stopped⟩
        · exact .inl whole
        · refine .inr ⟨u, List.mem_cons_of_mem t hu, ⟨t :: before, after, left, ?_, ?_, short⟩,
            stopped⟩
          · rw [hr, List.cons_append]
          · rw [heightAfter, if_pos h, ← height, hleft]
      · rw [Nat.not_le] at h
        obtain ⟨planted, taken⟩ := take_of_lt_arity first h
        rw [planted, taken]
        exact .inr ⟨t, List.mem_cons_self, ⟨[], rest, stack.length, rfl, rfl, h⟩, rfl, rfl⟩

theorem takeAll_of_firstShort (usable : ∀ t ∈ tokens, scope.Usable t)
    (short : FirstShort stack.length tokens t) :
    takeAll scope (values scope stack) tokens = .error (.error t.shortage) := by
  obtain ⟨before, after, left, rfl, hleft, hlt⟩ := short
  induction before generalizing stack with
  | nil =>
      have last := (List.forall_mem_cons.1 usable).1
      cases hleft
      rw [List.nil_append, takeAll_cons, (take_of_lt_arity last hlt).2]
      rfl
  | cons u before ih =>
      obtain ⟨first, others⟩ := List.forall_mem_cons.1 usable
      rw [heightAfter] at hleft
      split at hleft
      · next h =>
          obtain ⟨next, _, height, taken⟩ := take_of_arity_le first h
          rw [List.cons_append, takeAll_cons, taken]
          exact ih others (height ▸ hleft)
      · cases hleft

theorem evaluatePostfix_of_plantAll (usable : ∀ t ∈ tokens, scope.Usable t)
    (planted : plantAll [] tokens = some made) :
    heightAfter 0 tokens = some made.length ∧
      evaluatePostfix scope tokens =
        match made with
        | [tree] => .ok (tree.value scope)
        | _ => .error (.error (.valuesLeft made.length)) := by
  rcases takeAll_or_firstShort usable [] with ⟨_, h, height, taken⟩ | ⟨_, _, _, h, _⟩
  · cases planted.symm.trans h
    refine ⟨height, ?_⟩
    rw [evaluatePostfix, show takeAll scope [] tokens = _ from taken]
    rcases made with _ | ⟨tree, _ | ⟨next, rest⟩⟩
    · rfl
    · rfl
    · simp [values, bind, Except.bind]
      rfl
  · rw [planted] at h
    cases h

theorem evaluatePostfix_of_firstShort (usable : ∀ t ∈ tokens, scope.Usable t)
    (short : FirstShort 0 tokens t) :
    evaluatePostfix scope tokens = .error (.error t.shortage) := by
  have taken := @takeAll_of_firstShort scope t tokens [] usable short
  rw [evaluatePostfix, show takeAll scope [] tokens = _ from taken]
  rfl

end Values

/-! ## Tokens that are no postorder -/

/-- Why tokens have no value although all their operands have one. -/
inductive Unlisted (tokens : List Token) : Error → Prop where
  | argument {t : Token} (short : FirstShort 0 tokens t) (h : t.kind = .function) :
      Unlisted tokens (.missingArgument t.text)
  | operand {t : Token} (short : FirstShort 0 tokens t) (h : t.kind = .operator) :
      Unlisted tokens (.missingOperand t.text)
  | left {height : Nat} (h : heightAfter 0 tokens = some height) (several : height ≠ 1) :
      Unlisted tokens (.valuesLeft height)

section Decoding

variable {scope : Scope} {tokens : List Token}

theorem FirstShort.unlisted {t : Token} (short : FirstShort 0 tokens t) :
    Unlisted tokens t.shortage := by
  obtain ⟨_, _, _, _, _, hlt⟩ := id short
  rw [Token.shortage]
  split
  · next h => exact .argument short h
  · next h =>
      refine .operand short ?_
      unfold Token.arity at hlt
      cases hk : t.kind <;> simp_all

/-- Tokens that can be used are the postorder of one tree and have its value, or are that of no tree
and have an error. -/
theorem listed_or_unlisted (usable : ∀ t ∈ tokens, scope.Usable t) :
    (∃ tree, (∀ other : Tree, other.Postorder tokens ↔ other = tree) ∧
      evaluatePostfix scope tokens = .ok (tree.value scope)) ∨
    (∀ tree : Tree, ¬ tree.Postorder tokens) ∧
      ∃ cause, Unlisted tokens cause ∧ evaluatePostfix scope tokens = .error (.error cause) := by
  simp only [postorder_iff_plantAll]
  rcases takeAll_or_firstShort usable [] with ⟨made, planted, _⟩ | ⟨t, _, short, planted, _⟩
  · obtain ⟨height, evaluated⟩ := evaluatePostfix_of_plantAll usable planted
    match made with
    | [tree] => exact .inl ⟨tree, by simp [planted, eq_comm], evaluated⟩
    | [] => exact .inr ⟨by simp [planted], _, .left height (by simp), evaluated⟩
    | _ :: _ :: _ => exact .inr ⟨by simp [planted], _, .left height (by simp), evaluated⟩
  · exact .inr ⟨by simp [planted], _, short.unlisted, evaluatePostfix_of_firstShort usable short⟩

/-- The cause for which tokens are no postorder tells whether the first of them for which too few
values wait is a function. -/
theorem code_of_unlisted {cause : Error} (usable : ∀ t ∈ tokens, scope.Usable t)
    (unlisted : Unlisted tokens cause)
    (h : evaluatePostfix scope tokens = .error (.error cause)) :
    ((∃ t, FirstShort 0 tokens t ∧ t.kind = .function) → cause.code = "invalid_function_call") ∧
      ((¬ ∃ t, FirstShort 0 tokens t ∧ t.kind = .function) →
        cause.code = "invalid_expression") := by
  constructor
  · rintro ⟨t, short, kind⟩
    cases h.symm.trans (evaluatePostfix_of_firstShort usable short)
    rw [Token.shortage, if_pos kind]
    rfl
  · intro other
    cases unlisted with
    | argument short kind => exact absurd ⟨_, short, kind⟩ other
    | operand | left => rfl

/-- Tokens whose operands all have a value have one exactly if they are the postorder of a tree. The
tree is the only one and its value is theirs. Other tokens have an error that tells whether the
first of them for which too few values wait is a function. -/
theorem evaluatePostfix_iff_postorder (scope : Scope) {tokens : List Token}
    (usable : ∀ t ∈ tokens, scope.Usable t) :
    ((∃ value, evaluatePostfix scope tokens = .ok value) ↔ ∃ tree : Tree, tree.Postorder tokens) ∧
      (∀ tree : Tree, tree.Postorder tokens →
        evaluatePostfix scope tokens = .ok (tree.value scope) ∧
          ∀ other : Tree, other.Postorder tokens → other = tree) ∧
      ((¬ ∃ tree : Tree, tree.Postorder tokens) →
        ∃ cause, evaluatePostfix scope tokens = .error (.error cause) ∧ Unlisted tokens cause ∧
          ((∃ t, FirstShort 0 tokens t ∧ t.kind = .function) →
            cause.code = "invalid_function_call") ∧
          ((¬ ∃ t, FirstShort 0 tokens t ∧ t.kind = .function) →
            cause.code = "invalid_expression")) := by
  rcases listed_or_unlisted usable with ⟨tree, only, evaluated⟩ | ⟨none, cause, unlisted, stopped⟩
  · have listed : tree.Postorder tokens := (only tree).2 rfl
    refine ⟨iff_of_true ⟨_, evaluated⟩ ⟨tree, listed⟩, ?_, fun h => absurd ⟨tree, listed⟩ h⟩
    intro other order
    cases (only other).1 order
    exact ⟨evaluated, fun third => (only third).1⟩
  · refine ⟨iff_of_false ?_ fun ⟨tree, order⟩ => none tree order,
      fun tree order => absurd order (none tree), fun _ => ?_⟩
    · rintro ⟨value, h⟩
      cases stopped.symm.trans h
    · exact ⟨cause, stopped, unlisted, code_of_unlisted usable unlisted stopped⟩

theorem evaluatePostfix_iff_postorder_root :
    ∃ (scope : Scope) (tokens : List Token) (tree : Tree),
      tokens = [.number "7", .number "2", Operator.subtract.token,
        (Token.name "sqrt").marked .function] ∧
      (∀ t ∈ tokens, scope.Usable t) ∧ tree.Postorder tokens ∧
      tree = .apply ((Token.name "sqrt").marked .function)
        (.binary .subtract (.operand (.number "7")) (.operand (.number "2"))) ∧
      evaluatePostfix scope tokens = .ok (tree.value scope) := by
  let scope : Scope := ⟨Engine.standard.toVocabulary, none⟩
  have usable : ∀ t ∈ [.number "7", .number "2", Operator.subtract.token,
      (Token.name "sqrt").marked .function], scope.Usable t := by
    simp only [List.forall_mem_cons]
    exact ⟨.number rfl rfl, .number rfl rfl, .operator rfl rfl, .function rfl rfl,
      List.forall_mem_nil _⟩
  have difference := Tree.Postorder.binary (t := Operator.subtract.token) rfl rfl
    (.operand (t := .number "7") rfl) (.operand (t := .number "2") rfl)
  have root := Tree.Postorder.apply (f := (Token.name "sqrt").marked .function) rfl difference
  exact ⟨scope, _, _, rfl, usable, root, rfl,
    ((evaluatePostfix_iff_postorder scope usable).2.1 _ root).1⟩

end Decoding

end Wordsheet.Formula
