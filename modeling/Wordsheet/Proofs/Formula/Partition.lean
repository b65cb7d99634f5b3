import Mathlib.Tactic.Tauto
import Wordsheet.Proofs.Formula.HeadToken

/-! # Tokens in their places

Lexing divides a text into tokens and the characters between them, and there is one way only to do
so: every token is the longest that is spelled where it starts, and between tokens there is no
character that could start one. Strict lexing refuses a text for the first character between tokens
that is not blank, and shows the run of such characters that it starts.
-/

namespace Wordsheet.Formula

open Text

/-! ## Places -/

/-- Where the point stands inside a token: between the names of a cell reference, or between the
digits of a number. -/
inductive Token.JoinsAt : Token → Nat → Prop where
  | cell (row column : String) : JoinsAt (.cellRef row column) row.toList.length
  | number {whole fraction : List Char} (digits : ∀ c ∈ whole, isDigit c = true) :
      JoinsAt (.number (String.ofList (whole ++ '.' :: fraction))) whole.length

structure Placed where
  start : Nat
  token : Token

namespace Placed

def stop (p : Placed) : Nat :=
  p.start + p.token.text.length

def Covers (p : Placed) (i : Nat) : Prop :=
  p.start ≤ i ∧ i < p.stop

def Joins (p : Placed) (i : Nat) : Prop :=
  ∃ offset, p.token.JoinsAt offset ∧ i = p.start + offset

end Placed

/-- How a text is divided into tokens from a position on. -/
structure Partition (cs : List Char) (position : Nat) (placed : List Placed) : Prop where
  behind : ∀ p ∈ placed, position ≤ p.start
  ordered : placed.Pairwise fun p q => p.stop ≤ q.start
  spelled : ∀ p ∈ placed, p.token.Spelled
  found : ∀ p ∈ placed, p.token.text.toList <+: cs.drop p.start
  longest : ∀ p ∈ placed, ∀ u : Token, u.Spelled → u.text.toList <+: cs.drop p.start →
    u.text.length ≤ p.token.text.length
  /-- The characters outside all tokens are those that start none and are no point inside one. -/
  outside : ∀ i c, position ≤ i → cs[i]? = some c →
    ((∀ p ∈ placed, ¬ p.Covers i) ↔ startsToken c = false ∧ ∀ p ∈ placed, ¬ p.Joins i)

def placedFrom (position : Nat) : List Piece → List Placed
  | [] => []
  | .token t :: rest => ⟨position, t⟩ :: placedFrom (position + t.text.length) rest
  | .skipped _ :: rest => placedFrom (position + 1) rest

/-! ## Characters of a token -/

section Characters

variable {t : Token} {c : Char} {k : Nat}

theorem startsToken_of_isDigit (h : isDigit c = true) : startsToken c = true := by
  simp [startsToken, h]

theorem startsToken_of_continuesName (h : continuesName c = true) : startsToken c = true := by
  simp only [continuesName, Char.isAlphanum, Bool.or_eq_true] at h
  rcases h with (alpha | digit) | underscore
  · simp [startsToken, alpha]
  · exact startsToken_of_isDigit (isDigit_plain digit)
  · simp [startsToken, underscore]

theorem startsToken_of_isName {s : String} (named : isName s = true) (h : c ∈ s.toList) :
    startsToken c = true := by
  rw [isName] at named
  cases hs : s.toList with
  | nil =>
      rw [hs] at h
      cases h
  | cons d rest =>
      rw [hs] at named h
      obtain ⟨starts, continues⟩ := Bool.and_eq_true_iff.1 named
      rcases List.mem_cons.1 h with rfl | hr
      · simp only [startsName] at starts
        simp [startsToken, starts]
      · exact startsToken_of_continuesName (List.all_eq_true.1 continues c hr)

theorem mem_or_eq_length {before after : List Char} {d : Char}
    (h : (before ++ d :: after)[k]? = some c) : c ∈ before ∨ k = before.length ∨ c ∈ after := by
  rw [List.getElem?_append] at h
  split at h
  · exact .inl (List.mem_of_getElem? h)
  · next hk =>
      cases ho : k - before.length with
      | zero => exact .inr (.inl (by omega))
      | succ offset =>
          rw [ho, List.getElem?_cons_succ] at h
          exact .inr (.inr (List.mem_of_getElem? h))

/-- The characters of a token could all start one, but for the point inside it. -/
theorem startsToken_or_joinsAt (spelled : t.Spelled) (h : t.text.toList[k]? = some c) :
    startsToken c = true ∨ t.JoinsAt k := by
  have sign {d : Char} (hd : startsToken d = true) (hc : [d][k]? = some c) :
      startsToken c = true := by
    rw [List.mem_singleton.1 (List.mem_of_getElem? hc)]
    exact hd
  cases spelled with
  | @number whole fraction nonempty wholeDigits fractionDigits =>
      rw [Token.number, String.toList_ofList] at h
      cases fraction with
      | nil =>
          rw [behindPoint_nil, List.append_nil] at h
          exact .inl (startsToken_of_isDigit (wholeDigits c (List.mem_of_getElem? h)))
      | cons f fs =>
          rcases mem_or_eq_length h with hw | rfl | hf
          · exact .inl (startsToken_of_isDigit (wholeDigits c hw))
          · exact .inr (.number wholeDigits)
          · exact .inl (startsToken_of_isDigit (fractionDigits c hf))
  | @cell row column hrow hcolumn =>
      rw [toList_cellRef] at h
      rcases mem_or_eq_length h with hr | rfl | hc
      · exact .inl (startsToken_of_isName hrow hr)
      · exact .inr (.cell row column)
      · exact .inl (startsToken_of_isName hcolumn hc)
  | name named => exact .inl (startsToken_of_isName named (List.mem_of_getElem? h))
  | operator op => cases op <;> exact .inl (sign (by decide) h)
  | opening | closing | comma => exact .inl (sign (by decide) h)

theorem lt_length_of_joinsAt (joins : t.JoinsAt k) : k < t.text.toList.length := by
  cases joins with
  | cell row column => simp [toList_cellRef]
  | number digits => simp [Token.number]

theorem Placed.covers_of_joins {p : Placed} {i : Nat} (joins : p.Joins i) : p.Covers i := by
  obtain ⟨offset, hj, rfl⟩ := joins
  have := lt_length_of_joinsAt hj
  rw [String.length_toList] at this
  exact ⟨Nat.le_add_right .., by simp only [Placed.stop]; omega⟩

end Characters

/-! ## Lexing is a partition -/

section Lexing

variable {cs rest : List Char} {position : Nat} {placed : List Placed} {t : Token} {c : Char}

theorem drop_behind (h : cs.drop position = c :: rest) : cs.drop (position + 1) = rest := by
  rw [← List.drop_drop, h, List.drop_one, List.tail_cons]

theorem drop_behind_token (h : cs.drop position = t.text.toList ++ rest) :
    cs.drop (position + t.text.length) = rest := by
  rw [← List.drop_drop, h, ← String.length_toList, List.drop_left]

theorem Partition.nil (h : cs.drop position = []) : Partition cs position [] where
  behind := nofun
  ordered := .nil
  spelled := nofun
  found := nofun
  longest := nofun
  outside i c hi hc := by
    have := List.drop_eq_nil_iff.1 h
    have := (List.getElem?_eq_some_iff.1 hc).choose
    omega

/-- A partition goes on before a character with which no token starts. -/
theorem Partition.skip (h : cs.drop position = c :: rest) (skipped : startsToken c = false)
    (partition : Partition cs (position + 1) placed) : Partition cs position placed where
  behind p hp := Nat.le_of_succ_le (partition.behind p hp)
  ordered := partition.ordered
  spelled := partition.spelled
  found := partition.found
  longest := partition.longest
  outside i d hi hd := by
    rcases Nat.eq_or_lt_of_le hi with rfl | hi
    · have here : d = c := by
        rw [← List.head?_drop, h] at hd
        exact (Option.some.inj hd).symm
      refine iff_of_true (fun p hp covers => ?_) ⟨here ▸ skipped, fun p hp joins => ?_⟩
      · have := partition.behind p hp
        exact absurd covers.1 (by omega)
      · have := partition.behind p hp
        exact absurd (Placed.covers_of_joins joins).1 (by omega)
    · exact partition.outside i d hi hd

/-- A partition goes on before the token that is taken. -/
theorem Partition.token (h : cs.drop position = t.text.toList ++ rest)
    (taken : token? (t.text.toList ++ rest) = some (t, rest))
    (partition : Partition cs (position + t.text.length) placed) :
    Partition cs position (⟨position, t⟩ :: placed) where
  behind := List.forall_mem_cons.2
    ⟨Nat.le_refl _, fun p hp => (Nat.le_add_right ..).trans (partition.behind p hp)⟩
  ordered := .cons partition.behind partition.ordered
  spelled := List.forall_mem_cons.2 ⟨spelled_of_token? taken, partition.spelled⟩
  found := List.forall_mem_cons.2 ⟨h ▸ List.prefix_append .., partition.found⟩
  longest := by
    refine List.forall_mem_cons.2 ⟨fun u spelled hu => ?_, partition.longest⟩
    obtain ⟨t', rest', taken', longer⟩ := exists_longer_token spelled hu
    rw [show cs.drop _ = _ from h, taken] at taken'
    cases taken'
    simpa [String.length_toList] using longer
  outside i c hi hc := by
    rw [List.forall_mem_cons, List.forall_mem_cons]
    -- inside the token its own characters decide, and behind it the rest of the partition
    rcases Nat.lt_or_ge i (position + t.text.length) with inside | past
    · refine iff_of_false (fun apart => apart.1 ⟨hi, inside⟩) fun ⟨hs, unjoined, _⟩ => ?_
      obtain ⟨k, rfl⟩ := Nat.exists_eq_add_of_le hi
      have hk : t.text.toList[k]? = some c := by
        rw [← hc, ← List.getElem?_drop, h, List.getElem?_append_left]
        rw [String.length_toList]
        omega
      rcases startsToken_or_joinsAt (spelled_of_token? taken) hk with starts | joins
      · rw [starts] at hs
        cases hs
      · exact unjoined ⟨k, joins, rfl⟩
    · have apart : ¬ (Placed.mk position t).Covers i := fun covers =>
        absurd covers.2 (Nat.not_lt.2 past)
      have unjoined : ¬ (Placed.mk position t).Joins i := fun joins =>
        apart (Placed.covers_of_joins joins)
      rw [partition.outside i c past hc]
      tauto

/-- The tokens of a text, where they are found, are a partition of it. -/
theorem partition_pieces {cs' : List Char} (h : cs.drop position = cs') :
    Partition cs position (placedFrom position (pieces cs')) := by
  fun_induction pieces cs' generalizing position with
  | case1 => exact .nil h
  | case2 c rest t after taken ih =>
      rw [← append_of_token? taken] at h taken
      exact .token h taken (ih (drop_behind_token h))
  | case3 c rest none ih =>
      have skipped := startsToken_of_token?_eq_none none
      exact .skip h skipped (ih (drop_behind h))

theorem map_token_placedFrom (position : Nat) (found : List Piece) :
    (placedFrom position found).map Placed.token = found.filterMap Piece.token? := by
  induction found generalizing position with
  | nil => rfl
  | cons piece rest ih =>
      cases piece with
      | token t => exact congrArg (t :: ·) (ih _)
      | skipped c => exact ih _

end Lexing

/-! ## There is one partition -/

section Unique

variable {cs : List Char} {position : Nat} {placed : List Placed} {p q : Placed}

theorem Partition.startsToken (partition : Partition cs position placed) (hp : p ∈ placed) :
    ∃ c, cs[p.start]? = some c ∧ startsToken c = true := by
  obtain ⟨behind, hb⟩ := partition.found p hp
  have taken := @token?_append [] p.token (partition.spelled p hp) nofun
  rw [List.append_nil] at taken
  cases hs : p.token.text.toList with
  | nil =>
      rw [hs] at taken
      cases taken
  | cons c rest =>
      rw [hs] at taken hb
      refine ⟨c, ?_, by rw [← token?_isSome c rest, taken]; rfl⟩
      rw [← List.head?_drop, ← hb]
      rfl

theorem Placed.start_le_stop (p : Placed) : p.start ≤ p.stop :=
  Nat.le_add_right ..

/-- The first token of one partition starts no later than any token of another. -/
theorem Partition.exists_start_le (partition : Partition cs position placed)
    {others : List Placed} (other : Partition cs position others) (hq : q ∈ others) :
    ∃ p rest, placed = p :: rest ∧ p.start ≤ q.start := by
  obtain ⟨c, hc, starts⟩ := other.startsToken hq
  have covered : ∃ p ∈ placed, p.Covers q.start := by
    by_contra none
    have apart := (partition.outside q.start c (other.behind q hq) hc).1 (by simpa using none)
    rw [apart.1] at starts
    cases starts
  obtain ⟨p, hp, covers⟩ := covered
  cases placed with
  | nil => cases hp
  | cons first rest =>
      refine ⟨first, rest, rfl, ?_⟩
      rcases List.mem_cons.1 hp with rfl | hr
      · exact covers.1
      · have := List.rel_of_pairwise_cons partition.ordered hr
        exact (first.start_le_stop.trans this).trans covers.1

theorem Partition.tail (partition : Partition cs position (p :: placed)) :
    Partition cs p.stop placed where
  behind := (List.pairwise_cons.1 partition.ordered).1
  ordered := (List.pairwise_cons.1 partition.ordered).2
  spelled := (List.forall_mem_cons.1 partition.spelled).2
  found := (List.forall_mem_cons.1 partition.found).2
  longest := (List.forall_mem_cons.1 partition.longest).2
  outside i c hi hc := by
    have behind := partition.behind p (.head _)
    have outside := partition.outside i c (behind.trans (p.start_le_stop.trans hi)) hc
    have apart : ¬ p.Covers i := fun covers => absurd covers.2 (Nat.not_lt.2 hi)
    have unjoined : ¬ p.Joins i := fun joins => apart (Placed.covers_of_joins joins)
    rw [List.forall_mem_cons, List.forall_mem_cons] at outside
    tauto

/-- A text has no other partition. -/
theorem Partition.unique {others : List Placed} (partition : Partition cs position placed)
    (other : Partition cs position others) : others = placed := by
  induction placed generalizing position others with
  | nil =>
      refine List.eq_nil_iff_forall_not_mem.2 fun q hq => ?_
      obtain ⟨_, _, h, _⟩ := partition.exists_start_le other hq
      cases h
  | cons p rest ih =>
      obtain ⟨q, rest', rfl, behind⟩ := other.exists_start_le partition (.head _)
      obtain ⟨_, _, h, before⟩ := partition.exists_start_le other (.head _)
      cases h
      -- both start where the first character stands that can start a token, and both are longest
      have hstart : q.start = p.start := Nat.le_antisymm behind before
      have hp := partition.found p (.head _)
      have hq := other.found q (.head _)
      have longer := partition.longest p (.head _) q.token (other.spelled q (.head _))
        (hstart ▸ hq)
      have shorter := other.longest q (.head _) p.token (partition.spelled p (.head _))
        (hstart ▸ hp)
      have htext : q.token.text.toList = p.token.text.toList := by
        rw [hstart] at hq
        refine (List.prefix_of_prefix_length_le hq hp ?_).eq_of_length ?_ <;>
          simp only [String.length_toList] <;> omega
      have htoken : q.token = p.token := eq_of_text_eq (other.spelled q (.head _))
        (partition.spelled p (.head _)) (String.toList_inj.1 htext)
      obtain rfl : q = p := by
        cases q
        cases p
        cases hstart
        cases htoken
        rfl
      rw [ih partition.tail other.tail]

end Unique

/-! ## Strict lexing -/

/-- Whether a character that is not blank stands outside all tokens. -/
def Stray (cs : List Char) (placed : List Placed) (i : Nat) : Prop :=
  (∃ c, cs[i]? = some c ∧ isBlank c = false) ∧ ∀ p ∈ placed, ¬ p.Covers i

/-- Whether strays follow one another from one position on, and no longer than up to another. -/
structure StrayRun (cs : List Char) (placed : List Placed) (start stop : Nat) : Prop where
  le : start ≤ stop
  stray : ∀ i, start ≤ i → i < stop → Stray cs placed i
  ends : ¬ Stray cs placed stop

section Strict

variable {cs rest : List Char} {position i : Nat} {placed : List Placed} {t : Token} {c : Char}

theorem not_stray_of_drop_eq_nil (h : cs.drop position = []) (behind : position ≤ i) :
    ¬ Stray cs placed i := by
  rintro ⟨⟨c, hc, _⟩, _⟩
  have := List.drop_eq_nil_iff.1 h
  have := (List.getElem?_eq_some_iff.1 hc).choose
  omega

theorem stray_skip (h : cs.drop position = c :: rest)
    (partition : Partition cs (position + 1) placed) :
    Stray cs placed position ↔ isBlank c = false := by
  have here : cs[position]? = some c := by rw [← List.head?_drop, h, List.head?_cons]
  have apart : ∀ p ∈ placed, ¬ p.Covers position := fun p hp covers =>
    absurd covers.1 (Nat.not_le.2 (partition.behind p hp))
  refine ⟨fun ⟨⟨d, hd, unblank⟩, _⟩ => ?_, fun unblank => ⟨⟨c, here, unblank⟩, apart⟩⟩
  rw [here] at hd
  exact Option.some.inj hd ▸ unblank

theorem stray_token (behind : position ≤ i) :
    Stray cs (⟨position, t⟩ :: placed) i ↔ position + t.text.length ≤ i ∧ Stray cs placed i := by
  have apart : ¬ (Placed.mk position t).Covers i ↔ position + t.text.length ≤ i := by
    simp only [Placed.Covers, Placed.stop]
    omega
  rw [Stray, List.forall_mem_cons, apart, Stray]
  tauto

theorem StrayRun.nil (ends : ¬ Stray cs placed position) :
    StrayRun cs placed position position where
  le := Nat.le_refl _
  stray _ behind before := absurd before (Nat.not_lt.2 behind)
  ends := ends

theorem StrayRun.cons {stop : Nat} (stray : Stray cs placed position)
    (run : StrayRun cs placed (position + 1) stop) : StrayRun cs placed position stop where
  le := (Nat.le_succ _).trans run.le
  stray i behind before := by
    rcases Nat.eq_or_lt_of_le behind with rfl | behind
    · exact stray
    · exact run.stray i behind before
  ends := run.ends

theorem exists_strayRun_nil {found : List Piece} (hs : skippedRun found = [])
    (ends : ¬ Stray cs placed position) (cs' : List Char) :
    ∃ stop, StrayRun cs placed position stop ∧ skippedRun found = cs'.take (stop - position) :=
  ⟨position, .nil ends, by rw [hs, Nat.sub_self, List.take_zero]⟩

/-- The skipped run at the head of a text is the run of strays there. -/
theorem strayRun_skippedRun {cs' : List Char} (h : cs.drop position = cs') :
    ∃ stop, StrayRun cs (placedFrom position (pieces cs')) position stop ∧
      skippedRun (pieces cs') = cs'.take (stop - position) := by
  fun_induction pieces cs' generalizing position with
  | case1 =>
      exact exists_strayRun_nil rfl (not_stray_of_drop_eq_nil h (Nat.le_refl _)) _
  | case2 c rest t after taken =>
      refine exists_strayRun_nil rfl (fun stray => ?_) _
      have := token?_length taken
      have := congrArg List.length (append_of_token? taken)
      rw [List.length_append, String.length_toList] at this
      have := ((stray_token (Nat.le_refl _)).1 stray).1
      omega
  | case3 c rest none ih =>
      have stray := stray_skip h (partition_pieces (drop_behind h))
      cases hc : isBlank c with
      | true =>
          have empty : skippedRun (.skipped c :: pieces rest) = [] := if_pos hc
          refine exists_strayRun_nil empty (fun here => ?_) _
          rw [stray.1 here] at hc
          cases hc
      | false =>
          obtain ⟨stop, run, hs⟩ := ih (drop_behind h)
          refine ⟨stop, .cons (stray.2 hc) run, ?_⟩
          have := run.le
          rw [show stop - position = stop - (position + 1) + 1 by omega, List.take_succ_cons, ← hs]
          exact if_neg (by simp [hc])

/-- What strict lexing finds from a position on: nothing where there are no strays, and otherwise
the first run of them, and where it is. -/
inductive Unexpected (cs : List Char) (placed : List Placed) (position : Nat) :
    Option (String × Nat) → Prop where
  | none (unstray : ∀ i, position ≤ i → ¬ Stray cs placed i) : Unexpected cs placed position none
  | some {start stop : Nat} (behind : position ≤ start) (lt : start < stop)
      (run : StrayRun cs placed start stop)
      (first : ∀ i, position ≤ i → i < start → ¬ Stray cs placed i) :
      Unexpected cs placed position
        (some (String.ofList ((cs.drop start).take (stop - start)), start))

/-- What is found behind characters that are no strays is found before them. -/
theorem Unexpected.before {placed' : List Placed} {position' : Nat} {found : Option (String × Nat)}
    (le : position ≤ position')
    (strays : ∀ i, position ≤ i → (Stray cs placed i ↔ position' ≤ i ∧ Stray cs placed' i))
    (unexpected : Unexpected cs placed' position' found) : Unexpected cs placed position found := by
  cases unexpected with
  | none unstray =>
      refine .none fun i behind stray => ?_
      have found := (strays i behind).1 stray
      exact unstray i found.1 found.2
  | @some start stop behind lt run first =>
      have stray {i : Nat} (hi : start ≤ i) : Stray cs placed i ↔ Stray cs placed' i := by
        rw [strays i (le.trans (behind.trans hi)), and_iff_right (behind.trans hi)]
      refine .some (le.trans behind) lt ⟨run.le, ?_, ?_⟩ fun i hi before here => ?_
      · exact fun i hi before => (stray hi).2 (run.stray i hi before)
      · exact fun ends => run.ends ((stray run.le).1 ends)
      · have found := (strays i hi).1 here
        exact first i found.1 before found.2

theorem unexpected_pieces {cs' : List Char} (h : cs.drop position = cs') :
    Unexpected cs (placedFrom position (pieces cs')) position
      (unexpected? position (pieces cs')) := by
  fun_induction pieces cs' generalizing position with
  | case1 =>
      exact .none fun i => not_stray_of_drop_eq_nil h
  | case2 c rest t after taken ih =>
      rw [← append_of_token? taken] at h
      exact (ih (drop_behind_token h)).before (Nat.le_add_right ..) fun i => stray_token
  | case3 c rest none ih =>
      have stray := stray_skip h (partition_pieces (drop_behind h))
      rw [unexpected?]
      split
      · next blank =>
          -- a blank is no stray, so what is found behind it is found from here on
          refine (ih (drop_behind h)).before (Nat.le_succ _) fun i hi => ?_
          rcases Nat.eq_or_lt_of_le hi with rfl | hi
          · refine iff_of_false (fun here => ?_) fun here => absurd here.1 (Nat.not_succ_le_self _)
            rw [stray.1 here] at blank
            cases blank
          · exact (and_iff_right hi).symm
      · next unblank =>
          have here := stray.2 (Bool.eq_false_iff.2 unblank)
          obtain ⟨stop, run, hs⟩ := strayRun_skippedRun (drop_behind h)
          have hrun := run.le
          have text : c :: skippedRun (pieces rest) =
              (cs.drop position).take (stop - position) := by
            rw [hs, h, show stop - position = stop - (position + 1) + 1 by omega,
              List.take_succ_cons]
          rw [text]
          exact .some (Nat.le_refl _) hrun (.cons here run) fun i hi before =>
            absurd before (Nat.not_lt.2 hi)

end Strict

/-- Lexing gives the tokens of the one partition of a text. Strict lexing gives them too where only
blank characters stand outside them, and refuses the text for the first run of others elsewhere. -/
theorem tokenize_partition (text : String) :
    ∃ placed, Partition text.toList 0 placed ∧
      (∀ others, Partition text.toList 0 others → others = placed) ∧
      tokenize false text = .ok (placed.map Placed.token) ∧
      ((∀ i, ¬ Stray text.toList placed i) ∧
          tokenize true text = .ok (placed.map Placed.token) ∨
        ∃ start stop, start < stop ∧ StrayRun text.toList placed start stop ∧
          (∀ i < start, ¬ Stray text.toList placed i) ∧
          tokenize true text = .error (.unexpectedCharacter
            (String.ofList ((text.toList.drop start).take (stop - start))) start)) := by
  have partition := partition_pieces (List.drop_zero (l := text.toList))
  refine ⟨_, partition, fun others other => partition.unique other, ?_, ?_⟩
  · rw [map_token_placedFrom]
    rfl
  · have unexpected := unexpected_pieces (List.drop_zero (l := text.toList))
    rw [tokenize, if_pos rfl]
    cases hu : unexpected? 0 (pieces text.toList) with
    | none =>
        rw [hu] at unexpected
        obtain ⟨unstray⟩ := unexpected
        exact .inl ⟨fun i => unstray i (Nat.zero_le i), by rw [map_token_placedFrom]⟩
    | some found =>
        rw [hu] at unexpected
        obtain _ | ⟨_, lt, run, first⟩ := unexpected
        exact .inr ⟨_, _, lt, run, fun i => first i (Nat.zero_le i), rfl⟩

end Wordsheet.Formula
