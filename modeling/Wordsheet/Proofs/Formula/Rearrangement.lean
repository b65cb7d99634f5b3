import Wordsheet.Formula.Engine
import Wordsheet.Proofs.Formula.Conversion

/-! # Where tokens go in postfix order

Every token of a text but parentheses and commas stands once in its postfix order, and nothing else
does. Operands stand in the order of the text, and an operator stands behind the operands that come
before it in the text. So that tokens which are alike can be told apart, each is followed with its
place in the text.
-/

namespace Wordsheet.Formula

/-! ## Single tokens -/

def Token.isPunctuation (t : Token) : Bool :=
  t.kind = .opening || t.kind = .closing || t.kind = .comma

/-- A token as a vocabulary knows it: a name is marked as a constant if it is one, else as a
function if it is one. -/
def Vocabulary.resolve (known : Vocabulary) (t : Token) : Token :=
  match t.kind with
  | .name =>
      if known.constants.has t.text then t.marked .constant
      else if known.functions.has t.text then t.marked .function
      else t
  | _ => t

section Tokens

variable {known : Vocabulary} {t : Token}

theorem resolve_of_ne_name (h : t.kind ≠ .name) : known.resolve t = t := by
  unfold Vocabulary.resolve
  split
  · next hk => exact absurd hk h
  · rfl

theorem resolve_of_isOperand (h : known.isOperand t = true) : known.resolve t = known.mark t := by
  by_cases hk : t.kind = .name
  · simp only [Vocabulary.isOperand, Vocabulary.isFunction, hk] at h
    simp only [Vocabulary.resolve, Vocabulary.mark, hk]
    cases hc : known.constants.has t.text
    · have hf : known.functions.has t.text = false := by simpa [hc] using h
      simp [hf]
    · simp
  · rw [resolve_of_ne_name hk, known.mark_of_ne_name hk]

theorem resolve_of_isFunction (h : known.isFunction t = true) :
    known.resolve t = t.marked .function := by
  simp only [Vocabulary.isFunction, Bool.and_eq_true, decide_eq_true_eq, Bool.not_eq_true'] at h
  obtain ⟨⟨hk, hc⟩, hf⟩ := h
  simp [Vocabulary.resolve, hk, hc, hf]

/-- Knowing a token does not make it a parenthesis or a comma, nor does it stop being one. -/
theorem isPunctuation_resolve (known : Vocabulary) (t : Token) :
    (known.resolve t).isPunctuation = t.isPunctuation := by
  by_cases hk : t.kind = .name
  · simp only [Vocabulary.resolve, hk]
    split
    · simp [Token.isPunctuation, Token.marked, hk]
    · split <;> simp [Token.isPunctuation, Token.marked, hk]
  · rw [resolve_of_ne_name hk]

theorem isPunctuation_of_isOperand (h : known.isOperand t = true) : t.isPunctuation = false := by
  simp only [Vocabulary.isOperand, Bool.or_eq_true, Bool.and_eq_true, decide_eq_true_eq] at h
  rcases h with (hk | hk) | ⟨hk, _⟩ <;> simp [Token.isPunctuation, hk]

theorem isOperand_of_isFunction (h : known.isFunction t = true) : known.isOperand t = false := by
  have hk := kind_of_isFunction h
  simp [Vocabulary.isOperand, h, hk]

end Tokens

/-! ## Single steps -/

def withoutPunctuation (tokens : List Token) : List Token :=
  tokens.filter fun t => !t.isPunctuation

/-- What a token may do: an operand is put in order as it comes; any other token lets some of those
go that wait, and then waits itself unless it closes something. -/
inductive Moves (known : Vocabulary) (t : Token) : (waiting done still : List Token) → Prop where
  | operand {waiting : List Token} (h : known.isOperand t = true) :
      Moves known t waiting [known.resolve t] waiting
  | wait (passed still : List Token) (h : known.isOperand t = false)
      (opens : t.isPunctuation = true → t.isOpening = true) :
      Moves known t (passed ++ still) (withoutPunctuation passed) (known.resolve t :: still)
  | close (passed still : List Token) (h : t.isPunctuation = true) :
      Moves known t (passed ++ still) (withoutPunctuation passed) still

section Steps

variable {known : Vocabulary} {waiting order rest : List Token} {t : Token}

theorem withoutPunctuation_eq_self {tokens : List Token}
    (h : ∀ t ∈ tokens, t.isPunctuation = false) : withoutPunctuation tokens = tokens :=
  List.filter_eq_self.2 fun t ht => by rw [h t ht, Bool.not_false]

theorem exists_of_map_eq_ok {result : Except Failure (List Token)} {done : List Token}
    (h : result.map (done ++ ·) = .ok order) :
    ∃ more, result = .ok more ∧ order = done ++ more := by
  cases result with
  | error cause => cases h
  | ok more =>
      cases h
      exact ⟨more, rfl, rfl⟩

theorem withoutPunctuation_aboveOpening
    (waits : ∀ u ∈ waiting, u.isPunctuation = true → u.isOpening = true) :
    withoutPunctuation (aboveOpening waiting) = aboveOpening waiting := by
  refine withoutPunctuation_eq_self fun u hu => ?_
  have closed := List.all_eq_true.1 List.all_takeWhile u hu
  have known := waits u ((List.takeWhile_sublist _).mem hu)
  cases hp : u.isPunctuation with
  | false => rfl
  | true => simp [known hp] at closed

theorem withoutPunctuation_splitFunction (outer : List Token) :
    withoutPunctuation (splitFunction outer).1 = (splitFunction outer).1 := by
  refine withoutPunctuation_eq_self fun u hu => ?_
  cases outer with
  | nil => cases hu
  | cons t rest =>
      rw [splitFunction] at hu
      split at hu
      · next hk =>
          rw [List.mem_singleton.1 hu]
          simp [Token.isPunctuation, hk]
      · cases hu

theorem splitFunction_append (outer : List Token) :
    (splitFunction outer).1 ++ (splitFunction outer).2 = outer := by
  cases outer with
  | nil => rfl
  | cons t rest =>
      rw [splitFunction]
      split <;> rfl

/-- Tokens that can be put in order: the first makes its move and the others follow. -/
theorem exists_moves (spelled : t.Spelled)
    (waits : ∀ u ∈ waiting, u.isPunctuation = true → u.isOpening = true)
    (h : postfixFrom known waiting (t :: rest) = .ok order) :
    ∃ done still more, Moves known t waiting done still ∧
      postfixFrom known still rest = .ok more ∧ order = done ++ more := by
  have operand (ho : known.isOperand t = true) : ∃ done still more,
      Moves known t waiting done still ∧ postfixFrom known still rest = .ok more ∧
        order = done ++ more := by
    rw [postfixFrom_operand rest ho, ← resolve_of_isOperand ho] at h
    obtain ⟨more, hmore, rfl⟩ := @exists_of_map_eq_ok _ _ [known.resolve t] h
    exact ⟨_, _, more, .operand ho, hmore, rfl⟩
  cases spelled with
  | number | cell => exact operand rfl
  | @name text named =>
      cases hf : known.isFunction (.name text) with
      | false => exact operand (by rw [isOperand_name, hf]; rfl)
      | true =>
          rw [postfixFrom_function rest hf, ← resolve_of_isFunction hf] at h
          exact ⟨_, _, order, .wait [] waiting (isOperand_of_isFunction hf)
            fun h => absurd h Bool.false_ne_true, h, rfl⟩
  | operator op =>
      rw [postfixFrom_operator rest op] at h
      obtain ⟨more, hmore, rfl⟩ := exists_of_map_eq_ok h
      have passed : withoutPunctuation (waiting.takeWhile (Token.bindsAs op.rank)) =
          waiting.takeWhile (Token.bindsAs op.rank) := by
        refine withoutPunctuation_eq_self fun u hu => ?_
        have binds := List.all_eq_true.1 List.all_takeWhile u hu
        simp only [Token.bindsAs, Bool.and_eq_true, decide_eq_true_eq] at binds
        simp [Token.isPunctuation, binds.1]
      have moves : Moves known op.token (_ ++ _) _ _ :=
        .wait (waiting.takeWhile (Token.bindsAs op.rank))
          (waiting.dropWhile (Token.bindsAs op.rank)) rfl fun h => absurd h Bool.false_ne_true
      rw [List.takeWhile_append_dropWhile, passed] at moves
      exact ⟨_, _, more, moves, hmore, rfl⟩
  | opening =>
      rw [postfixFrom_opening] at h
      exact ⟨_, _, order, .wait [] waiting rfl fun _ => rfl, h, rfl⟩
  | closing =>
      cases hw : fromOpening waiting with
      | nil =>
          rw [postfixFrom_closing_nil rest hw] at h
          cases h
      | cons inner outer =>
          rw [postfixFrom_closing_cons rest hw] at h
          obtain ⟨more, hmore, rfl⟩ := exists_of_map_eq_ok h
          have hinner : inner.isPunctuation = true := by
            have := List.head?_dropWhile_not (fun t => !t.isOpening) waiting
            rw [fromOpening] at hw
            rw [hw] at this
            have opens : inner.kind = .opening := by simpa [Token.isOpening] using this
            simp [Token.isPunctuation, opens]
          have passed : withoutPunctuation
              (aboveOpening waiting ++ inner :: (splitFunction outer).1) =
              aboveOpening waiting ++ (splitFunction outer).1 := by
            have drops : withoutPunctuation (inner :: (splitFunction outer).1) =
                withoutPunctuation (splitFunction outer).1 :=
              List.filter_cons_of_neg (by simp [hinner])
            rw [withoutPunctuation, List.filter_append, ← withoutPunctuation,
              ← withoutPunctuation, drops, withoutPunctuation_aboveOpening waits,
              withoutPunctuation_splitFunction]
          have whole : aboveOpening waiting ++ inner :: (splitFunction outer).1 ++
              (splitFunction outer).2 = waiting := by
            rw [List.append_assoc, List.cons_append, splitFunction_append, ← hw]
            exact List.takeWhile_append_dropWhile
          have moves : Moves known .closing (_ ++ _) _ _ :=
            .close (aboveOpening waiting ++ inner :: (splitFunction outer).1)
              (splitFunction outer).2 rfl
          rw [whole, passed] at moves
          exact ⟨_, _, more, moves, hmore, rfl⟩
  | comma =>
      rw [postfixFrom_comma] at h
      obtain ⟨more, hmore, rfl⟩ := exists_of_map_eq_ok h
      have moves : Moves known .comma (_ ++ _) _ _ :=
        .close (aboveOpening waiting) (fromOpening waiting) rfl
      rw [withoutPunctuation_aboveOpening waits,
        show aboveOpening waiting ++ fromOpening waiting = waiting from
          List.takeWhile_append_dropWhile] at moves
      exact ⟨_, _, more, moves, hmore, rfl⟩

/-- What waits at the end of the tokens is put in order as it is. -/
theorem postfixFrom_nil_eq_ok
    (waits : ∀ u ∈ waiting, u.isPunctuation = true → u.isOpening = true)
    (h : postfixFrom known waiting [] = .ok order) : order = withoutPunctuation waiting := by
  rw [postfixFrom] at h
  split at h
  · cases h
  · next settled =>
      cases h
      refine (withoutPunctuation_eq_self fun u hu => ?_).symm
      cases hp : u.isPunctuation with
      | false => rfl
      | true =>
          have hopen : u.kind = .opening := by simpa [Token.isOpening] using waits u hu hp
          exact absurd (List.any_eq_true.2 ⟨u, hu, by simp [hopen]⟩) settled

end Steps

/-! ## Tokens with their places -/

/-- What waits, with the places it has in the text, and what is still to come. -/
structure Waits (known : Vocabulary) (waiting rest : List (Token × Nat)) : Prop where
  /-- No operand waits. -/
  idle : ∀ p ∈ waiting, known.isOperand p.1 = false
  /-- No closing parenthesis and no comma waits. -/
  opens : ∀ p ∈ waiting, p.1.isPunctuation = true → p.1.isOpening = true
  /-- What is still to come stands behind what waits. -/
  behind : ∀ p ∈ waiting, ∀ q ∈ rest, p.2 < q.2
  ordered : rest.Pairwise fun p q => p.2 < q.2

/-- The order in which tokens are put when some others wait. -/
structure Arranged (known : Vocabulary) (waiting rest placed : List (Token × Nat)) : Prop where
  /-- Every token but parentheses and commas is there once. -/
  each : placed.Perm ((waiting ++ rest).filter fun p => !p.1.isPunctuation)
  /-- Operands are in the order of the text. -/
  operands : placed.filter (fun p => known.isOperand p.1) =
    rest.filter fun p => known.isOperand p.1
  /-- All that stands in front of an operand comes before it in the text. -/
  ascending : placed.Pairwise fun p q => known.isOperand q.1 = true → p.2 < q.2

section Places

variable {known : Vocabulary} {waiting rest placed passed : List (Token × Nat)} {p : Token × Nat}

theorem Waits.resolved (h : Waits known waiting rest) :
    ∀ u ∈ waiting.map (known.resolve ·.1), u.isPunctuation = true → u.isOpening = true := by
  intro u hu hp
  obtain ⟨q, hq, rfl⟩ := List.mem_map.1 hu
  rw [isPunctuation_resolve] at hp
  have opens := h.opens q hq hp
  have hk : q.1.kind ≠ .name := by
    intro hk
    simp [Token.isOpening, hk] at opens
  rwa [resolve_of_ne_name hk]

theorem Waits.tail (h : Waits known waiting (p :: rest)) : Waits known waiting rest where
  idle := h.idle
  opens := h.opens
  behind q hq r hr := h.behind q hq r (List.mem_cons_of_mem _ hr)
  ordered := h.ordered.tail

theorem Waits.right (h : Waits known (passed ++ waiting) rest) : Waits known waiting rest where
  idle q hq := h.idle q (List.mem_append_right _ hq)
  opens q hq := h.opens q (List.mem_append_right _ hq)
  behind q hq := h.behind q (List.mem_append_right _ hq)
  ordered := h.ordered

theorem Waits.push (h : Waits known waiting (p :: rest)) (idle : known.isOperand p.1 = false)
    (opens : p.1.isPunctuation = true → p.1.isOpening = true) :
    Waits known (p :: waiting) rest where
  idle := List.forall_mem_cons.2 ⟨idle, h.idle⟩
  opens := List.forall_mem_cons.2 ⟨opens, h.opens⟩
  behind := List.forall_mem_cons.2
    ⟨fun _ hq => List.rel_of_pairwise_cons h.ordered hq, h.tail.behind⟩
  ordered := h.ordered.tail

theorem pairwise_of_idle (idle : ∀ p ∈ passed, known.isOperand p.1 = false) :
    passed.Pairwise fun p q => known.isOperand q.1 = true → p.2 < q.2 := by
  refine List.pairwise_of_forall_mem_list fun p _ q hq operand => ?_
  rw [idle q hq] at operand
  cases operand

theorem Arranged.mem_of_isOperand (h : Arranged known waiting rest placed) (hp : p ∈ placed)
    (operand : known.isOperand p.1 = true) : p ∈ rest := by
  have : p ∈ placed.filter fun p => known.isOperand p.1 := List.mem_filter.2 ⟨hp, operand⟩
  rw [h.operands] at this
  exact (List.mem_filter.1 this).1

theorem Arranged.last (h : Waits known waiting []) :
    Arranged known waiting [] (waiting.filter fun p => !p.1.isPunctuation) where
  each := by rw [List.append_nil]
  operands := by
    refine List.filter_eq_nil_iff.2 fun q hq => ?_
    simp [h.idle q (List.mem_filter.1 hq).1]
  ascending := pairwise_of_idle fun q hq => h.idle q (List.mem_filter.1 hq).1

theorem Arranged.operand (h : Arranged known waiting rest placed)
    (waits : Waits known waiting (p :: rest)) (operand : known.isOperand p.1 = true) :
    Arranged known waiting (p :: rest) (p :: placed) where
  each := by
    refine List.Perm.trans ?_ (List.perm_middle.symm.filter _)
    simpa [isPunctuation_of_isOperand operand] using h.each
  operands := by simpa [operand] using h.operands
  ascending := List.pairwise_cons.2 ⟨fun _ hq ho =>
    List.rel_of_pairwise_cons waits.ordered (h.mem_of_isOperand hq ho), h.ascending⟩

/-- A token that waits itself comes in the place where it is let go. -/
theorem Arranged.push (h : Arranged known (p :: waiting) rest placed)
    (idle : known.isOperand p.1 = false) : Arranged known waiting (p :: rest) placed where
  each := h.each.trans (List.perm_middle.symm.filter _)
  operands := by rw [h.operands, List.filter_cons_of_neg (by simp [idle])]
  ascending := h.ascending

theorem Arranged.skip (h : Arranged known waiting rest placed)
    (punctuation : p.1.isPunctuation = true) : Arranged known waiting (p :: rest) placed where
  each := by
    have : (waiting ++ p :: rest).filter (fun p => !p.1.isPunctuation) =
        (waiting ++ rest).filter fun p => !p.1.isPunctuation := by
      simp [List.filter_append, punctuation]
    rw [this]
    exact h.each
  operands := by
    have idle : known.isOperand p.1 = false := by
      cases ho : known.isOperand p.1 with
      | false => rfl
      | true => rw [isPunctuation_of_isOperand ho] at punctuation; cases punctuation
    rw [h.operands, List.filter_cons_of_neg (by simp [idle])]
  ascending := h.ascending

/-- Tokens that are let go stand in front of all that follows. -/
theorem Arranged.letGo (h : Arranged known waiting rest placed)
    (waits : Waits known (passed ++ waiting) rest) :
    Arranged known (passed ++ waiting) rest
      (passed.filter (fun p => !p.1.isPunctuation) ++ placed) where
  each := by
    rw [List.append_assoc, List.filter_append]
    exact h.each.append_left _
  operands := by
    have none : (passed.filter fun p => !p.1.isPunctuation).filter
        (fun p => known.isOperand p.1) = [] := by
      refine List.filter_eq_nil_iff.2 fun q hq => ?_
      simp [waits.idle q (List.mem_append_left _ (List.mem_filter.1 hq).1)]
    rw [List.filter_append, none, List.nil_append, h.operands]
  ascending := by
    have mem {q : Token × Nat} (hq : q ∈ passed.filter fun p => !p.1.isPunctuation) :
        q ∈ passed ++ waiting := List.mem_append_left _ (List.mem_filter.1 hq).1
    exact List.pairwise_append.2 ⟨pairwise_of_idle fun q hq => waits.idle q (mem hq),
      h.ascending, fun q hq r hr ho => waits.behind q (mem hq) r (h.mem_of_isOperand hr ho)⟩

theorem withoutPunctuation_map (placed : List (Token × Nat)) :
    withoutPunctuation (placed.map (known.resolve ·.1)) =
      (placed.filter fun p => !p.1.isPunctuation).map (known.resolve ·.1) := by
  rw [withoutPunctuation, List.filter_map]
  congr 2
  funext p
  exact congrArg not (isPunctuation_resolve known p.1)

/-- Tokens that can be put in order keep their places. -/
theorem exists_placed {order : List Token} (spelled : ∀ p ∈ rest, p.1.Spelled)
    (waits : Waits known waiting rest)
    (h : postfixFrom known (waiting.map (known.resolve ·.1)) (rest.map (·.1)) = .ok order) :
    ∃ placed, order = placed.map (known.resolve ·.1) ∧ Arranged known waiting rest placed := by
  induction rest generalizing waiting order with
  | nil =>
      refine ⟨_, ?_, .last waits⟩
      rw [← withoutPunctuation_map]
      exact postfixFrom_nil_eq_ok waits.resolved h
  | cons p rest ih =>
      have spelledRest := fun q hq => spelled q (List.mem_cons_of_mem p hq)
      obtain ⟨done, still, more, moves, hmore, rfl⟩ :=
        exists_moves (spelled p List.mem_cons_self) waits.resolved h
      generalize hw : waiting.map (known.resolve ·.1) = w at moves
      cases moves with
      | operand operand =>
          obtain ⟨placed, rfl, hplaced⟩ := ih spelledRest waits.tail (hw ▸ hmore)
          exact ⟨p :: placed, rfl, hplaced.operand waits operand⟩
      | wait passed still idle opens =>
          obtain ⟨passed, still, rfl, rfl, rfl⟩ := List.map_eq_append_iff.1 hw
          obtain ⟨placed, rfl, hplaced⟩ := ih spelledRest (waits.right.push idle opens) hmore
          refine ⟨_, ?_, (hplaced.push idle).letGo waits⟩
          rw [withoutPunctuation_map, List.map_append]
      | close passed still punctuation =>
          obtain ⟨passed, still, rfl, rfl, rfl⟩ := List.map_eq_append_iff.1 hw
          obtain ⟨placed, rfl, hplaced⟩ := ih spelledRest waits.right.tail hmore
          refine ⟨_, ?_, (hplaced.skip punctuation).letGo waits⟩
          rw [withoutPunctuation_map, List.map_append]

end Places

/-! ## Whole texts -/

/-- How tokens are put in postfix order, each with its place in the text. -/
structure Rearranged (known : Vocabulary) (tokens : List Token) (placed : List (Token × Nat)) :
    Prop where
  /-- Every token but parentheses and commas is there once. -/
  each : placed.Perm (tokens.zipIdx.filter fun p => !p.1.isPunctuation)
  /-- Operands are in the order of the text. -/
  operands : placed.filter (fun p => known.isOperand p.1) =
    tokens.zipIdx.filter fun p => known.isOperand p.1
  /-- An operator stands behind the operands that come before it in the text. -/
  operators : ∀ (i j : Nat) (p q : Token × Nat), placed[i]? = some p → placed[j]? = some q →
    p.1.kind = .operator → known.isOperand q.1 = true → q.2 < p.2 → j < i

theorem Arranged.rearranged {known : Vocabulary} {tokens : List Token}
    {placed : List (Token × Nat)} (h : Arranged known [] tokens.zipIdx placed) :
    Rearranged known tokens placed where
  each := h.each
  operands := h.operands
  operators i j p q hi hj operator operand before := by
    rcases Nat.lt_trichotomy j i with hlt | rfl | hlt
    · exact hlt
    · rw [hi] at hj
      cases hj
      exact absurd before (Nat.lt_irrefl _)
    · obtain ⟨hi', rfl⟩ := List.getElem?_eq_some_iff.1 hi
      obtain ⟨hj', rfl⟩ := List.getElem?_eq_some_iff.1 hj
      have := List.pairwise_iff_getElem.1 h.ascending i j hi' hj' hlt operand
      exact absurd this (Nat.lt_asymm before)

/-- Tokens are put in order from where they are in the text. -/
theorem exists_arranged {known : Vocabulary} {tokens order : List Token}
    (spelled : ∀ t ∈ tokens, t.Spelled) (converted : toPostfix known tokens = .ok order) :
    ∃ placed, order = placed.map (known.resolve ·.1) ∧
      Arranged known [] tokens.zipIdx placed := by
  have hmap : tokens.zipIdx.map (·.1) = tokens := List.zipIdx_map_fst 0 tokens
  have waits : Waits known [] tokens.zipIdx :=
    { idle := nofun, opens := nofun, behind := nofun
      ordered := by
        refine List.pairwise_iff_getElem.2 fun i j hi hj hlt => ?_
        simpa using hlt }
  refine exists_placed (fun p hp => spelled p.1 ?_) waits (by rwa [hmap])
  rw [← hmap]
  exact List.mem_map_of_mem hp

theorem perm_resolve {known : Vocabulary} {tokens order : List Token}
    (spelled : ∀ t ∈ tokens, t.Spelled) (converted : toPostfix known tokens = .ok order) :
    order.Perm ((withoutPunctuation tokens).map known.resolve) := by
  obtain ⟨placed, rfl, hplaced⟩ := exists_arranged spelled converted
  have unplaced : (tokens.zipIdx.filter fun p => !p.1.isPunctuation).map (known.resolve ·.1) =
      (withoutPunctuation tokens).map known.resolve := by
    calc (tokens.zipIdx.filter fun p => !p.1.isPunctuation).map (known.resolve ·.1)
      _ = ((tokens.zipIdx.map Prod.fst).filter fun t => !t.isPunctuation).map known.resolve := by
          rw [List.filter_map, List.map_map]
          rfl
      _ = (withoutPunctuation tokens).map known.resolve := by
          rw [List.zipIdx_map_fst, withoutPunctuation]
  rw [← unplaced]
  exact hplaced.each.map fun p => known.resolve p.1

/-- What holds of the operands, the functions and the operators of some tokens holds of all that is
put in postfix order. -/
theorem forall_toPostfix {known : Vocabulary} {P : Token → Prop} {tokens order : List Token}
    (spelled : ∀ t ∈ tokens, t.Spelled)
    (operand : ∀ t ∈ tokens, known.isOperand t = true → P (known.mark t))
    (function : ∀ t ∈ tokens, known.isFunction t = true → P (t.marked .function))
    (operator : ∀ op : Operator, P op.token)
    (converted : toPostfix known tokens = .ok order) : ∀ t ∈ order, P t := by
  intro u hu
  rw [(perm_resolve spelled converted).mem_iff] at hu
  obtain ⟨t, ht, rfl⟩ := List.mem_map.1 hu
  obtain ⟨ht, notPunctuation⟩ := List.mem_filter.1 ht
  have taken (ho : known.isOperand t = true) : P (known.resolve t) :=
    resolve_of_isOperand ho ▸ operand t ht ho
  cases spelled t ht with
  | number | cell => exact taken rfl
  | @name text named =>
      cases hf : known.isFunction (.name text) with
      | false => exact taken (by rw [isOperand_name, hf]; rfl)
      | true => exact resolve_of_isFunction hf ▸ function _ ht hf
  | operator op => exact operator op
  | opening | closing | comma => cases notPunctuation

/-- The postfix order of a text holds the tokens of the text but for parentheses and commas, each
once and each as the vocabulary knows it. Its operands are in the order of the text, and an operator
stands behind all operands that come before it. -/
theorem toPostfix_rearranged {known : Vocabulary} {strict : Bool} {text : String}
    {tokens order : List Token} (lexed : tokenize strict text = .ok tokens)
    (converted : toPostfix known tokens = .ok order) :
    order.Perm ((withoutPunctuation tokens).map known.resolve) ∧
      ∃ placed, order = placed.map (known.resolve ·.1) ∧ Rearranged known tokens placed := by
  have spelled : ∀ t ∈ tokens, t.Spelled := fun t ht => spelled_of_mem_tokenize lexed ht
  obtain ⟨placed, hplaced, arranged⟩ := exists_arranged spelled converted
  exact ⟨perm_resolve spelled converted, placed, hplaced, arranged.rearranged⟩

theorem toPostfix_rearranged_comma :
    ∃ tokens placed, tokenize true "2 * sqrt(pi, x)" = .ok tokens ∧
      toPostfix Engine.standard.toVocabulary tokens = .ok [.number "2",
        (Token.name "pi").marked .constant, .name "x", (Token.name "sqrt").marked .function,
        Operator.multiply.token] ∧
      Rearranged Engine.standard.toVocabulary tokens placed := by
  have lexed : tokenize true "2 * sqrt(pi, x)" = .ok [.number "2", Operator.multiply.token,
      .name "sqrt", .opening, .name "pi", .comma, .name "x", .closing] := by
    decide +kernel
  have converted : toPostfix Engine.standard.toVocabulary [.number "2", Operator.multiply.token,
      .name "sqrt", .opening, .name "pi", .comma, .name "x", .closing] = .ok [.number "2",
      (Token.name "pi").marked .constant, .name "x", (Token.name "sqrt").marked .function,
      Operator.multiply.token] := rfl
  obtain ⟨_, placed, _, hplaced⟩ := toPostfix_rearranged lexed converted
  exact ⟨_, placed, lexed, converted, hplaced⟩

end Wordsheet.Formula
