import Mathlib.Data.List.TakeWhile
import Wordsheet.Proofs.Formula.Grammar

/-! # Postfix order, token by token

What each sort of token does to the waiting tokens and to the postfix order, and from that: the
tokens of an expression become its operands and operators in postorder, and tokens that are
converted at all close the parentheses they open.
-/

namespace Wordsheet.Formula

/-! ## Single tokens -/

/-- A token as the postfix order has it: the name of a constant is marked as one. -/
def Vocabulary.mark (known : Vocabulary) (t : Token) : Token :=
  if t.kind = .name ∧ known.constants.has t.text = true then t.marked .constant else t

theorem Vocabulary.mark_of_ne_name (known : Vocabulary) {t : Token} (h : t.kind ≠ .name) :
    known.mark t = t :=
  if_neg fun hn => h hn.1

section Steps

variable {known : Vocabulary} {waiting : List Token} {t : Token} (rest : List Token)

theorem postfixFrom_operand (h : known.isOperand t = true) :
    postfixFrom known waiting (t :: rest) =
      (postfixFrom known waiting rest).map (known.mark t :: ·) := by
  simp only [Vocabulary.isOperand, Vocabulary.isFunction, Bool.or_eq_true, Bool.and_eq_true,
    decide_eq_true_eq, Bool.not_eq_true', Bool.and_eq_false_iff] at h
  rcases h with (hk | hk) | ⟨hk, hf⟩
  · simp only [postfixFrom, hk, Vocabulary.mark]
    rfl
  · simp only [postfixFrom, hk, Vocabulary.mark]
    rfl
  · cases hc : known.constants.has t.text with
    | true =>
        simp only [postfixFrom, hk, hc, Vocabulary.mark]
        rfl
    | false =>
        have hn : known.functions.has t.text = false := by simpa [hk, hc] using hf
        simp only [postfixFrom, hk, hc, hn, Vocabulary.mark]
        rfl

theorem postfixFrom_function (h : known.isFunction t = true) :
    postfixFrom known waiting (t :: rest) =
      postfixFrom known (t.marked .function :: waiting) rest := by
  simp only [Vocabulary.isFunction, Bool.and_eq_true, decide_eq_true_eq, Bool.not_eq_true'] at h
  obtain ⟨⟨hk, hc⟩, hf⟩ := h
  simp [postfixFrom, hk, hc, hf]

theorem postfixFrom_opening :
    postfixFrom known waiting (.opening :: rest) =
      postfixFrom known (.opening :: waiting) rest := by
  rfl

theorem postfixFrom_closing_nil (h : fromOpening waiting = []) :
    postfixFrom known waiting (.closing :: rest) = .error (.error .unexpectedClosing) := by
  simp [postfixFrom, Token.closing, h]

theorem postfixFrom_closing_cons {inner : Token} {outer : List Token}
    (h : fromOpening waiting = inner :: outer) :
    postfixFrom known waiting (.closing :: rest) =
      (postfixFrom known (splitFunction outer).2 rest).map
        (aboveOpening waiting ++ (splitFunction outer).1 ++ ·) := by
  simp [postfixFrom, Token.closing, h]
  rfl

theorem postfixFrom_comma :
    postfixFrom known waiting (.comma :: rest) =
      (postfixFrom known (fromOpening waiting) rest).map (aboveOpening waiting ++ ·) := by
  rfl

theorem postfixFrom_operator (op : Operator) :
    postfixFrom known waiting (op.token :: rest) =
      (postfixFrom known (op.token :: waiting.dropWhile (Token.bindsAs op.rank)) rest).map
        (waiting.takeWhile (Token.bindsAs op.rank) ++ ·) := by
  simp [postfixFrom, Operator.token]
  rfl

end Steps

/-! ## Parentheses -/

def openings (waiting : List Token) : Nat :=
  waiting.countP Token.isOpening

theorem openings_opening (waiting : List Token) :
    openings (.opening :: waiting) = openings waiting + 1 :=
  List.countP_cons_of_pos rfl

theorem openings_dropWhile {test : Token → Bool} (waiting : List Token)
    (h : ∀ t, test t = true → t.isOpening = false) :
    openings (waiting.dropWhile test) = openings waiting := by
  induction waiting with
  | nil => rfl
  | cons t rest ih =>
      cases ht : test t with
      | false => simp [ht]
      | true => simpa [ht, openings, h t ht] using ih

theorem openings_fromOpening (waiting : List Token) :
    openings (fromOpening waiting) = openings waiting :=
  openings_dropWhile waiting fun _ h => by simpa using h

theorem fromOpening_eq_nil {waiting : List Token} (h : openings waiting = 0) :
    fromOpening waiting = [] := by
  rw [fromOpening, List.dropWhile_eq_nil_iff]
  intro t ht
  have := List.countP_eq_zero.1 h t ht
  simpa using this

theorem fromOpening_eq_cons {waiting : List Token} {depth : Nat}
    (h : openings waiting = depth + 1) :
    ∃ inner outer, fromOpening waiting = inner :: outer ∧ openings outer = depth := by
  have hcount := openings_fromOpening waiting
  cases hw : fromOpening waiting with
  | nil =>
      rw [hw, h] at hcount
      cases hcount
  | cons inner outer =>
      have hin : inner.isOpening = true := by
        have := List.head?_dropWhile_not (fun t => !t.isOpening) waiting
        rw [fromOpening] at hw
        simpa [hw] using this
      refine ⟨inner, outer, rfl, ?_⟩
      rw [hw, h] at hcount
      simpa [openings, hin] using hcount

theorem fromOpening_sublist (waiting : List Token) : (fromOpening waiting).Sublist waiting :=
  List.dropWhile_sublist _

theorem isOpening_of_bindsAs {rank : Nat} {t : Token} (h : t.bindsAs rank = true) :
    t.isOpening = false := by
  simp only [Token.bindsAs, Bool.and_eq_true, decide_eq_true_eq] at h
  simp [Token.isOpening, h.1]

theorem openings_splitFunction (waiting : List Token) :
    openings (splitFunction waiting).2 = openings waiting := by
  cases waiting with
  | nil => rfl
  | cons t rest =>
      rw [splitFunction]
      split
      · next h => simp [openings, Token.isOpening, h]
      · rfl

theorem splitFunction_sublist (waiting : List Token) :
    (splitFunction waiting).2.Sublist waiting := by
  cases waiting with
  | nil => exact .slnil
  | cons t rest =>
      rw [splitFunction]
      split
      · exact List.sublist_cons_self t rest
      · exact List.Sublist.refl (t :: rest)

/-- What the conversion of tokens comes to when they lead to a depth of parentheses. -/
def Settled : Option Nat → Except Failure (List Token) → Prop
  | none, result => result = .error (.error .unexpectedClosing)
  | some 0, result => ∃ order, result = .ok order
  | some (_ + 1), result => result = .error (.error .unclosedOpening)

theorem Settled.map {depth : Option Nat} {result : Except Failure (List Token)}
    (settled : Settled depth result) (f : List Token → List Token) :
    Settled depth (result.map f) := by
  match depth, settled with
  | none, h => exact h ▸ rfl
  | some 0, ⟨order, h⟩ => exact ⟨f order, h ▸ rfl⟩
  | some (_ + 1), h => exact h ▸ rfl

theorem settled_waiting {waiting : List Token} (known : Vocabulary)
    (noClosing : ∀ t ∈ waiting, t.kind ≠ .closing) :
    Settled (some (openings waiting)) (postfixFrom known waiting []) := by
  have hany : waiting.any (fun t => t.kind = .opening || t.kind = .closing) =
      waiting.any Token.isOpening := by
    rw [Bool.eq_iff_iff, List.any_eq_true, List.any_eq_true]
    refine exists_congr fun t => and_congr_right fun ht => ?_
    simp [Token.isOpening, noClosing t ht]
  rw [postfixFrom, hany]
  cases hw : openings waiting with
  | zero =>
      have hnone : waiting.any Token.isOpening = false := by
        simpa [openings, List.countP_eq_zero] using hw
      rw [hnone]
      exact ⟨waiting, rfl⟩
  | succ depth =>
      have hsome : waiting.any Token.isOpening = true := by
        rw [List.any_eq_true, ← List.countP_pos_iff]
        rw [openings] at hw
        omega
      rw [hsome]
      rfl

/-- Parentheses alone decide whether tokens can be converted. -/
theorem settled_postfixFrom {known : Vocabulary} {tokens : List Token}
    (spelled : ∀ t ∈ tokens, t.Spelled) (waiting : List Token)
    (noClosing : ∀ t ∈ waiting, t.kind ≠ .closing) :
    Settled (depthAfter (openings waiting) tokens) (postfixFrom known waiting tokens) := by
  induction tokens generalizing waiting with
  | nil => exact settled_waiting known noClosing
  | cons t rest ih =>
      have spelledRest : ∀ u ∈ rest, u.Spelled := fun u hu =>
        spelled u (List.mem_cons_of_mem t hu)
      have within {still : List Token} (hs : still.Sublist waiting) : ∀ u ∈ still,
          u.kind ≠ .closing := fun u hu => noClosing u (hs.mem hu)
      have added {u : Token} {still : List Token} (hs : still.Sublist waiting)
          (hu : u.kind ≠ .closing) : ∀ v ∈ u :: still, v.kind ≠ .closing :=
        List.forall_mem_cons.2 ⟨hu, within hs⟩
      have operand (h : known.isOperand t = true) (ho : t.kind ≠ .opening)
          (hc : t.kind ≠ .closing) : Settled (depthAfter (openings waiting) (t :: rest))
            (postfixFrom known waiting (t :: rest)) := by
        rw [postfixFrom_operand rest h, depthAfter_cons _ rest ho hc]
        exact (ih spelledRest waiting noClosing).map _
      cases spelled t List.mem_cons_self with
      | number | cell => exact operand rfl (by rintro ⟨⟩) (by rintro ⟨⟩)
      | @name text named =>
          cases hf : known.isFunction (.name text) with
          | false =>
              exact operand (by rw [isOperand_name, hf]; rfl) (by rintro ⟨⟩) (by rintro ⟨⟩)
          | true =>
              have hc : ((Token.name text).marked .function).kind ≠ .closing := by rintro ⟨⟩
              have hi := ih spelledRest _ (added (List.Sublist.refl waiting) hc)
              rw [postfixFrom_function rest hf,
                depthAfter_cons (t := .name text) _ rest (by rintro ⟨⟩) (by rintro ⟨⟩)]
              exact hi
      | operator op =>
          have hs := List.dropWhile_sublist (l := waiting) (Token.bindsAs op.rank)
          have hd : openings (waiting.dropWhile (Token.bindsAs op.rank)) = openings waiting :=
            openings_dropWhile waiting fun _ => isOpening_of_bindsAs
          have hc : op.token.kind ≠ .closing := by rintro ⟨⟩
          have ho : op.token.kind ≠ .opening := by rintro ⟨⟩
          have hi := ih spelledRest _ (added hs hc)
          rw [postfixFrom_operator rest op, depthAfter_cons _ rest ho hc, ← hd]
          exact hi.map _
      | opening =>
          have hc : Token.opening.kind ≠ .closing := by rintro ⟨⟩
          have hi := ih spelledRest _ (added (List.Sublist.refl waiting) hc)
          rwa [openings_opening] at hi
      | closing =>
          cases hw : openings waiting with
          | zero =>
              rw [postfixFrom_closing_nil rest (fromOpening_eq_nil hw)]
              rfl
          | succ depth =>
              obtain ⟨inner, outer, hout, hd⟩ := fromOpening_eq_cons hw
              have houter : outer.Sublist waiting :=
                (List.sublist_cons_self inner outer).trans
                  (hout ▸ fromOpening_sublist waiting)
              have hi := ih spelledRest _ (within ((splitFunction_sublist outer).trans houter))
              rw [openings_splitFunction, hd] at hi
              rw [postfixFrom_closing_cons rest hout, depthAfter_closing_succ]
              exact hi.map _
      | comma =>
          have hi := ih spelledRest _ (within (fromOpening_sublist waiting))
          rw [← openings_fromOpening waiting, postfixFrom_comma,
            depthAfter_cons (t := .comma) _ rest (by rintro ⟨⟩) (by rintro ⟨⟩)]
          exact hi.map _

/-! ## Expressions -/

/-- The rank from which on operators bind inside an expression of a level. -/
def Level.rank : Level → Nat
  | .sum => 1
  | .product => 2
  | .factor => 3

theorem Operator.rank_level (op : Operator) : op.level.rank = op.rank := by
  cases op <;> rfl

theorem Operator.rank_next_level (op : Operator) : op.level.next.rank = op.rank + 1 := by
  cases op <;> rfl

theorem Token.bindsAs_token (rank : Nat) (op : Operator) :
    op.token.bindsAs rank = decide (rank ≤ op.rank) := by
  simp [Token.bindsAs, Operator.token]

theorem bindsAs_of_le {less more : Nat} (h : less ≤ more) {t : Token} (ht : t.bindsAs more = true) :
    t.bindsAs less = true := by
  simp only [Token.bindsAs, Bool.and_eq_true, decide_eq_true_eq, Option.any_eq_true] at ht ⊢
  obtain ⟨hk, op, ho, hr⟩ := ht
  exact ⟨hk, op, ho, Nat.le_trans h hr⟩

/-- Whether an expression of a rank may start here: no waiting function would be taken for its own,
and no waiting operator would be done before its own operators. -/
def Ready (rank : Nat) : List Token → Prop
  | [] => True
  | t :: _ => t.kind ≠ .function ∧ t.bindsAs rank = false

theorem Ready.mono {less more : Nat} {waiting : List Token} (h : less ≤ more)
    (ready : Ready less waiting) : Ready more waiting := by
  cases waiting with
  | nil => trivial
  | cons t rest =>
      refine ⟨ready.1, ?_⟩
      by_contra hb
      have := bindsAs_of_le h (Bool.not_eq_false _ ▸ hb)
      simp [ready.2] at this

/-- The postfix order of an expression: what is applied stands behind what it is applied to. -/
def Tree.code (known : Vocabulary) : Tree → List Token
  | .operand t => [known.mark t]
  | .apply f argument => argument.code known ++ [f.marked .function]
  | .binary op left right => left.code known ++ right.code known ++ [op.token]

theorem aboveOpening_append {pending : List Token} {rank : Nat}
    (binds : ∀ t ∈ pending, t.bindsAs rank = true) (outer : List Token) :
    aboveOpening (pending ++ .opening :: outer) = pending := by
  rw [aboveOpening, List.takeWhile_append_of_pos]
  · exact List.append_nil pending
  · intro t ht
    rw [isOpening_of_bindsAs (binds t ht)]
    rfl

theorem fromOpening_append {pending : List Token} {rank : Nat}
    (binds : ∀ t ∈ pending, t.bindsAs rank = true) (outer : List Token) :
    fromOpening (pending ++ .opening :: outer) = .opening :: outer := by
  rw [fromOpening, List.dropWhile_append_of_pos]
  · rfl
  · intro t ht
    rw [isOpening_of_bindsAs (binds t ht)]
    rfl

theorem splitFunction_of_ready {rank : Nat} {waiting : List Token} (ready : Ready rank waiting) :
    splitFunction waiting = ([], waiting) := by
  cases waiting with
  | nil => rfl
  | cons t rest => rw [splitFunction, if_neg ready.1]

theorem splitFunction_function (f : Token) (waiting : List Token) :
    splitFunction (f.marked .function :: waiting) = ([f.marked .function], waiting) := rfl

theorem ready_opening (rank : Nat) (waiting : List Token) : Ready rank (.opening :: waiting) :=
  ⟨nofun, rfl⟩

theorem ready_token {op : Operator} (waiting : List Token) :
    Ready op.level.next.rank (op.token :: waiting) := by
  refine ⟨nofun, ?_⟩
  rw [Token.bindsAs_token, Operator.rank_next_level]
  simp

theorem takeWhile_pending {pending waiting : List Token} {rank : Nat}
    (binds : ∀ t ∈ pending, t.bindsAs rank = true) (ready : Ready rank waiting) :
    (pending ++ waiting).takeWhile (Token.bindsAs rank) = pending ∧
      (pending ++ waiting).dropWhile (Token.bindsAs rank) = waiting := by
  rw [List.takeWhile_append_of_pos binds, List.dropWhile_append_of_pos binds]
  cases waiting with
  | nil => exact ⟨List.append_nil pending, rfl⟩
  | cons t rest => simp [ready.2]

theorem map_append_map (xs ys : List Token) (result : Except Failure (List Token)) :
    (result.map (ys ++ ·)).map (xs ++ ·) = result.map ((xs ++ ys) ++ ·) := by
  cases result with
  | error cause => rfl
  | ok order => simp [Except.map]

/-- An expression is converted up to the operators that may still take what follows. -/
theorem postfixFrom_derives {known : Vocabulary} {level : Level} {tokens : List Token} {tree : Tree}
    (derived : Derives known level tokens tree) (waiting rest : List Token)
    (ready : Ready level.rank waiting) :
    ∃ done pending, done ++ pending = tree.code known ∧
      (∀ t ∈ pending, t.bindsAs level.rank = true) ∧
      postfixFrom known waiting (tokens ++ rest) =
        (postfixFrom known (pending ++ waiting) rest).map (done ++ ·) := by
  induction derived generalizing waiting rest with
  | @operand t h => exact ⟨[known.mark t], [], rfl, nofun, postfixFrom_operand rest h⟩
  | @group tokens tree _ ih =>
      obtain ⟨done, pending, hcode, binds, ho⟩ :=
        ih (.opening :: waiting) (.closing :: rest) (ready_opening _ waiting)
      refine ⟨tree.code known, [], List.append_nil _, nofun, ?_⟩
      calc
        postfixFrom known waiting (.opening :: tokens ++ [.closing] ++ rest) =
            postfixFrom known (.opening :: waiting) (tokens ++ .closing :: rest) := by
          simp [postfixFrom_opening]
        _ = ((postfixFrom known waiting rest).map (pending ++ ·)).map (done ++ ·) := by
          rw [ho, postfixFrom_closing_cons rest (fromOpening_append binds waiting),
            splitFunction_of_ready ready, aboveOpening_append binds, List.append_nil]
        _ = (postfixFrom known waiting rest).map (tree.code known ++ ·) := by
          rw [map_append_map, hcode]
  | @apply f tokens tree h _ ih =>
      obtain ⟨done, pending, hcode, binds, ho⟩ :=
        ih (.opening :: f.marked .function :: waiting) (.closing :: rest) (ready_opening _ _)
      refine ⟨tree.code known ++ [f.marked .function], [], List.append_nil _, nofun, ?_⟩
      calc
        postfixFrom known waiting (f :: .opening :: tokens ++ [.closing] ++ rest) =
            postfixFrom known (.opening :: f.marked .function :: waiting)
              (tokens ++ .closing :: rest) := by
          simp [postfixFrom_function _ h, postfixFrom_opening]
        _ = ((postfixFrom known waiting rest).map (pending ++ [f.marked .function] ++ ·)).map
              (done ++ ·) := by
          rw [ho, postfixFrom_closing_cons rest (fromOpening_append binds _),
            splitFunction_function, aboveOpening_append binds]
        _ = (postfixFrom known waiting rest).map
              (tree.code known ++ [f.marked .function] ++ ·) := by
          rw [map_append_map, ← List.append_assoc, hcode]
  | factor _ ih =>
      obtain ⟨done, pending, hcode, binds, ho⟩ := ih waiting rest (ready.mono (by decide))
      exact ⟨done, pending, hcode, fun t ht => bindsAs_of_le (by decide) (binds t ht), ho⟩
  | product _ ih =>
      obtain ⟨done, pending, hcode, binds, ho⟩ := ih waiting rest (ready.mono (by decide))
      exact ⟨done, pending, hcode, fun t ht => bindsAs_of_le (by decide) (binds t ht), ho⟩
  | @binary op before after left right _ _ ihFirst ihSecond =>
      obtain ⟨done, pending, hcode, binds, ho⟩ :=
        ihFirst waiting (op.token :: (after ++ rest)) ready
      obtain ⟨done', pending', hcode', binds', ho'⟩ :=
        ihSecond (op.token :: waiting) rest (ready_token waiting)
      obtain ⟨htake, hdrop⟩ := takeWhile_pending binds ready
      rw [Operator.rank_level] at htake hdrop
      refine ⟨done ++ pending ++ done', pending' ++ [op.token], ?_, ?_, ?_⟩
      · rw [Tree.code, ← hcode, ← hcode']
        simp
      · intro t ht
        rcases List.mem_append.1 ht with hp | hop
        · refine bindsAs_of_le ?_ (binds' t hp)
          rw [Operator.rank_next_level, Operator.rank_level]
          omega
        · rw [List.mem_singleton.1 hop, Token.bindsAs_token, Operator.rank_level]
          simp
      · calc
          postfixFrom known waiting (before ++ op.token :: after ++ rest) =
              (postfixFrom known (pending ++ waiting) (op.token :: (after ++ rest))).map
                (done ++ ·) := by
            rw [← ho]
            simp
          _ = (((postfixFrom known (pending' ++ op.token :: waiting) rest).map (done' ++ ·)).map
                (pending ++ ·)).map (done ++ ·) := by
            rw [postfixFrom_operator, htake, hdrop, ho']
          _ = (postfixFrom known (pending' ++ [op.token] ++ waiting) rest).map
                (done ++ pending ++ done' ++ ·) := by
            rw [map_append_map, map_append_map]
            simp

/-- The postfix order of an expression is that of its tree. -/
theorem toPostfix_of_derives {known : Vocabulary} {tokens : List Token} {tree : Tree}
    (derived : Derives known .sum tokens tree) :
    toPostfix known tokens = .ok (tree.code known) := by
  obtain ⟨done, pending, hcode, binds, ho⟩ := postfixFrom_derives derived [] [] trivial
  have hnone : pending.any (fun t => t.kind = .opening || t.kind = .closing) = false := by
    rw [List.any_eq_false]
    intro t ht
    have hb := binds t ht
    simp only [Token.bindsAs, Bool.and_eq_true, decide_eq_true_eq] at hb
    simp [hb.1]
  rw [List.append_nil, List.append_nil] at ho
  rw [toPostfix, ho, postfixFrom, hnone, ← hcode]
  rfl

end Wordsheet.Formula
