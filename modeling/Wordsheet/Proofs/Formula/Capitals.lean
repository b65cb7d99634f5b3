import Mathlib
import Wordsheet.Proofs.Formula.Registration
import Wordsheet.Proofs.Formula.Respacing

/-! # Lexing in either letter case

A lexer asks of a letter only whether it is one, so small and capital letters give the same pieces
of a text. Where two texts differ in the letter case of names only, they have the same tokens in the
same places but for the letter case of the names among them.
-/

namespace Wordsheet.Formula

open Text

/-! ## Letters -/

section Letters

-- The lemmas on `Char.toUpper` are in no part of the library that can be imported by itself.

variable {c : Char}

/-- A test that tells no letter from another gives the same for a letter and its capital. -/
theorem toUpper_congr {α : Type} {f : Char → α}
    (letters : ∀ c d, c.isAlpha = true → d.isAlpha = true → f c = f d) (c : Char) :
    f c.toUpper = f c := by
  cases hc : c.isAlpha with
  | true => exact letters _ _ ((Char.isAlpha_toUpper_eq_isAlpha c).trans hc) hc
  | false =>
      rw [Char.isAlpha, Bool.or_eq_false_iff] at hc
      rw [Char.toUpper_eq_of_not_isLower (by simp [hc.2])]

theorem startsName_of_isAlpha (h : c.isAlpha = true) : startsName c = true := by
  rw [startsName, h, Bool.true_or]

theorem startsName_toUpper (c : Char) : startsName c.toUpper = startsName c :=
  toUpper_congr (fun _ _ hc hd => by rw [startsName_of_isAlpha hc, startsName_of_isAlpha hd]) c

theorem continuesName_toUpper (c : Char) : continuesName c.toUpper = continuesName c :=
  toUpper_congr (fun _ _ hc hd => by simp [continuesName, Char.isAlphanum, hc, hd]) c

theorem isDigit_of_isAlpha (h : c.isAlpha = true) : isDigit c = false := by
  rw [Bool.eq_false_iff]
  intro digit
  have starts := startsName_of_isAlpha h
  rw [startsName_of_isDigit digit] at starts
  cases starts

theorem isDigit_toUpper (c : Char) : isDigit c.toUpper = isDigit c :=
  toUpper_congr (fun _ _ hc hd => by rw [isDigit_of_isAlpha hc, isDigit_of_isAlpha hd]) c

theorem signKind?_of_isAlpha (h : c.isAlpha = true) : signKind? c = none := by
  unfold signKind?
  split <;> first | rfl | exact absurd h (by decide)

theorem signKind?_toUpper (c : Char) : signKind? c.toUpper = signKind? c :=
  toUpper_congr (fun _ _ hc hd => by rw [signKind?_of_isAlpha hc, signKind?_of_isAlpha hd]) c

theorem toUpper_eq_point (c : Char) : c.toUpper = '.' ↔ c = '.' := by
  have apart {c : Char} (h : c.isAlpha = true) : c ≠ '.' := by
    rintro rfl
    exact absurd h (by decide)
  exact iff_of_eq (toUpper_congr (f := (· = '.'))
    (fun _ _ hc hd => propext (iff_of_false (apart hc) (apart hd))) c)

end Letters

/-! ## Lexing capitals -/

def capitals (cs : List Char) : List Char :=
  cs.map Char.toUpper

@[simp] theorem capitals_nil : capitals [] = [] := rfl

@[simp] theorem capitals_cons (c : Char) (cs : List Char) :
    capitals (c :: cs) = c.toUpper :: capitals cs := rfl

@[simp] theorem capitals_append (cs ds : List Char) :
    capitals (cs ++ ds) = capitals cs ++ capitals ds :=
  List.map_append

@[simp] theorem length_capitals (cs : List Char) : (capitals cs).length = cs.length :=
  List.length_map _

def Token.capitalized (t : Token) : Token :=
  ⟨t.kind, upperCased t.text, t.row.map upperCased, t.column.map upperCased⟩

section Lexing

variable {cs ds rest : List Char} {t : Token}

theorem toList_upperCased (s : String) : (upperCased s).toList = capitals s.toList :=
  String.toList_ofList

theorem upperCased_ofList (cs : List Char) :
    upperCased (String.ofList cs) = String.ofList (capitals cs) := by
  rw [upperCased, String.toList_ofList, capitals]

theorem length_upperCased (s : String) : (upperCased s).length = s.length := by
  rw [← String.length_toList, toList_upperCased, length_capitals, String.length_toList]

theorem upperCased_upperCased (s : String) : upperCased (upperCased s) = upperCased s := by
  refine String.toList_inj.1 ?_
  rw [toList_upperCased, toList_upperCased, capitals, capitals, List.map_map]
  exact List.map_congr_left fun c _ => Char.toUpper_toUpper_eq_toUpper c

theorem takeWhile_capitals {test : Char → Bool} (h : ∀ c, test c.toUpper = test c)
    (cs : List Char) : (capitals cs).takeWhile test = capitals (cs.takeWhile test) ∧
      (capitals cs).dropWhile test = capitals (cs.dropWhile test) := by
  have same : test ∘ Char.toUpper = test := funext h
  rw [capitals, List.takeWhile_map, List.dropWhile_map, same]
  exact ⟨rfl, rfl⟩

theorem splitName?_capitals (cs : List Char) :
    splitName? (capitals cs) =
      (splitName? cs).map fun found => (capitals found.1, capitals found.2) := by
  cases cs with
  | nil => rfl
  | cons c cs =>
      obtain ⟨htake, hdrop⟩ := takeWhile_capitals continuesName_toUpper cs
      rw [capitals_cons, splitName?, splitName?, startsName_toUpper, htake, hdrop]
      split <;> rfl

theorem splitFraction_of_ne_point {c : Char} (h : c ≠ '.') (cs : List Char) :
    splitFraction (c :: cs) = ([], c :: cs) := by
  unfold splitFraction
  split
  · next hp => exact absurd (List.cons.inj hp).1 h
  · rfl

theorem splitFraction_capitals (cs : List Char) :
    splitFraction (capitals cs) =
      (capitals (splitFraction cs).1, capitals (splitFraction cs).2) := by
  cases cs with
  | nil => rfl
  | cons c cs =>
      by_cases hc : c = '.'
      · subst hc
        obtain ⟨htake, hdrop⟩ := takeWhile_capitals isDigit_toUpper cs
        have empty : (capitals (cs.takeWhile isDigit)).isEmpty =
            (cs.takeWhile isDigit).isEmpty := List.isEmpty_map
        rw [capitals_cons, show '.'.toUpper = '.' from rfl, splitFraction, splitFraction, htake,
          hdrop, empty]
        split <;> rfl
      · rw [capitals_cons, splitFraction_of_ne_point hc,
          splitFraction_of_ne_point (mt (toUpper_eq_point c).1 hc)]
        rfl

theorem splitNumber?_capitals (cs : List Char) :
    splitNumber? (capitals cs) =
      (splitNumber? cs).map fun found => (capitals found.1, capitals found.2) := by
  obtain ⟨htake, hdrop⟩ := takeWhile_capitals isDigit_toUpper cs
  have empty : (capitals (cs.takeWhile isDigit)).isEmpty = (cs.takeWhile isDigit).isEmpty :=
    List.isEmpty_map
  rw [splitNumber?, splitNumber?, htake, hdrop, splitFraction_capitals, empty]
  split
  · rfl
  · simp

theorem capitalized_cellRef (row column : String) :
    (Token.cellRef row column).capitalized =
      .cellRef (upperCased row) (upperCased column) := by
  have text : upperCased (row ++ "." ++ column) = upperCased row ++ "." ++ upperCased column := by
    refine String.toList_inj.1 ?_
    simp only [toList_upperCased, String.toList_append, capitals_append]
    rfl
  rw [Token.capitalized, Token.cellRef, text]
  rfl

theorem capitalized_name (name : List Char) :
    (Token.name (String.ofList name)).capitalized = .name (String.ofList (capitals name)) := by
  rw [Token.capitalized, Token.name, upperCased_ofList]
  rfl

theorem nameToken_of_ne_point {c : Char} (h : c ≠ '.') (name cs : List Char) :
    nameToken name (c :: cs) = (.name (String.ofList name), c :: cs) := by
  unfold nameToken
  split
  · next hp => exact absurd (List.cons.inj hp).1 h
  · rfl

theorem nameToken_capitals (name rest : List Char) :
    nameToken (capitals name) (capitals rest) =
      ((nameToken name rest).1.capitalized, capitals (nameToken name rest).2) := by
  cases rest with
  | nil => exact congrArg (·, []) (capitalized_name name).symm
  | cons c rest =>
      by_cases hc : c = '.'
      · subst hc
        rw [capitals_cons, show '.'.toUpper = '.' from rfl]
        simp only [nameToken]
        rw [splitName?_capitals]
        cases splitName? rest with
        | none => exact congrArg (·, _) (capitalized_name name).symm
        | some found => simp only [Option.map_some, capitalized_cellRef, upperCased_ofList]
      · rw [capitals_cons, nameToken_of_ne_point hc,
          nameToken_of_ne_point (mt (toUpper_eq_point c).1 hc), capitalized_name, capitals_cons]

/-- The token at the head of a text, in capitals, is the token at the head of the text in capitals.
-/
theorem token?_capitals (cs : List Char) :
    token? (capitals cs) =
      (token? cs).map fun found => (found.1.capitalized, capitals found.2) := by
  unfold token?
  rw [splitName?_capitals]
  cases splitName? cs with
  | some found => exact congrArg some (nameToken_capitals found.1 found.2)
  | none =>
      dsimp only [Option.map_none]
      rw [splitNumber?_capitals]
      cases splitNumber? cs with
      | some found =>
          simp only [Option.map_some, Token.capitalized, upperCased_ofList, Option.map_none]
      | none =>
          cases cs with
          | nil => rfl
          | cons c cs =>
              dsimp only [Option.map_none, capitals_cons]
              rw [signKind?_toUpper]
              cases signKind? c with
              | none => rfl
              | some kind =>
                  simp only [Option.map_some, Token.capitalized, upperCased_ofList, Option.map_none]
                  rfl

/-- Texts that differ in letter case have alike tokens at their heads. -/
theorem exists_token?_of_capitals_eq (h : capitals ds = capitals cs)
    (taken : token? cs = some (t, rest)) :
    ∃ u rest', token? ds = some (u, rest') ∧ u.capitalized = t.capitalized := by
  have same := (token?_capitals ds).symm.trans ((congrArg token? h).trans (token?_capitals cs))
  rw [taken, Option.map_some, Option.map_eq_some_iff] at same
  obtain ⟨⟨u, rest'⟩, hu, same⟩ := same
  exact ⟨u, rest', hu, (Prod.mk.inj same).1⟩

end Lexing

/-! ## Tokens without letter case -/

def Token.withoutCase (t : Token) : Token :=
  match t.kind with
  | .name | .function | .constant => { t with text := upperCased t.text }
  | _ => t

def Piece.withoutCase : Piece → Piece
  | .token t => .token t.withoutCase
  | .skipped c => .skipped c

section Tokens

variable {t u : Token}

@[simp] theorem kind_withoutCase (t : Token) : t.withoutCase.kind = t.kind := by
  unfold Token.withoutCase
  split <;> rfl

@[simp] theorem length_withoutCase (t : Token) :
    t.withoutCase.text.length = t.text.length := by
  unfold Token.withoutCase
  split <;> first | exact length_upperCased t.text | rfl

theorem withoutCase_name (text : String) :
    (Token.name text).withoutCase = .name (upperCased text) := rfl

/-- Names that are alike in capitals are alike without letter case. -/
theorem withoutCase_eq_of_capitalized (ht : t.Spelled) (hu : u.Spelled)
    (alike : u.capitalized = t.capitalized) (named : t.kind = .name) :
    u.withoutCase = t.withoutCase := by
  obtain ⟨kind, text, _⟩ := Token.mk.inj alike
  have plain {v : Token} (hv : v.Spelled) (named : v.kind = .name) : v = .name v.text := by
    cases hv with
    | name => rfl
    | number | cell | operator | opening | closing | comma => cases named
  rw [plain ht named, plain hu (kind.trans named), withoutCase_name, withoutCase_name, text]

end Tokens

/-! ## Texts that differ in the letter case of names -/

def InName (placed : List Placed) (i : Nat) : Prop :=
  ∃ p ∈ placed, p.token.kind = .name ∧ p.Covers i

/-- Whether two texts with some tokens in the first differ, from a position on, in the letter case
of its names only. -/
structure Recased (cs ds : List Char) (position : Nat) (placed : List Placed) : Prop where
  letters : capitals ds = capitals cs
  elsewhere : ∀ i, position ≤ i → ¬ InName placed i → ds[i]? = cs[i]?

section Lexing

variable {cs ds rest : List Char} {position i : Nat} {placed : List Placed} {t u : Token} {c : Char}

theorem not_inName_of_behind (behind : ∀ p ∈ placed, i < p.start) : ¬ InName placed i :=
  fun ⟨p, hp, _, covers⟩ => absurd covers.1 (Nat.not_le.2 (behind p hp))

theorem Recased.letters_drop (recased : Recased cs ds position placed) (n : Nat) :
    capitals (ds.drop n) = capitals (cs.drop n) := by
  rw [capitals, capitals, List.map_drop, List.map_drop]
  exact congrArg (List.drop n) recased.letters

theorem Recased.tail (recased : Recased cs ds position (⟨position, t⟩ :: placed)) :
    Recased cs ds (position + t.text.length) placed where
  letters := recased.letters
  elsewhere i hi apart := by
    refine recased.elsewhere i ((Nat.le_add_right ..).trans hi) ?_
    rintro ⟨p, hp, named, covers⟩
    rcases List.mem_cons.1 hp with rfl | hp
    · exact absurd covers.2 (Nat.not_lt.2 hi)
    · exact apart ⟨p, hp, named, covers⟩

theorem Recased.skip (recased : Recased cs ds position placed) :
    Recased cs ds (position + 1) placed where
  letters := recased.letters
  elsewhere i hi := recased.elsewhere i (Nat.le_of_succ_le hi)

/-- A token that is no name stands in both texts. -/
theorem Recased.take_eq (recased : Recased cs ds position (⟨position, t⟩ :: placed))
    (behind : ∀ p ∈ placed, position + t.text.length ≤ p.start) (other : t.kind ≠ .name) :
    (ds.drop position).take t.text.length = (cs.drop position).take t.text.length := by
  refine List.ext_getElem? fun k => ?_
  rw [List.getElem?_take, List.getElem?_take, List.getElem?_drop, List.getElem?_drop]
  split
  · next hk =>
      refine recased.elsewhere _ (Nat.le_add_right ..) ?_
      rintro ⟨p, hp, named, covers⟩
      rcases List.mem_cons.1 hp with rfl | hp
      · exact other named
      · have := behind p hp
        exact absurd covers.1 (by omega)
  · rfl

/-- Where one text has a token the other has it too, but for the letter case of a name. -/
theorem Recased.exists_token? (recased : Recased cs ds position (⟨position, t⟩ :: placed))
    (behind : ∀ p ∈ placed, position + t.text.length ≤ p.start)
    (taken : token? (cs.drop position) = some (t, rest)) :
    ∃ u, token? (ds.drop position) = some (u, ds.drop (position + t.text.length)) ∧
      u.withoutCase = t.withoutCase := by
  obtain ⟨u, rest', hu, alike⟩ := exists_token?_of_capitals_eq (recased.letters_drop position) taken
  have spelled := spelled_of_token? taken
  have spelled' := spelled_of_token? hu
  have whole := append_of_token? taken
  have whole' := append_of_token? hu
  have length : u.text.length = t.text.length := by
    rw [← length_upperCased, (Token.mk.inj alike).2.1, length_upperCased]
  have hrest : rest' = ds.drop (position + t.text.length) := by
    rw [← length, drop_behind_token whole'.symm]
  refine ⟨u, hrest ▸ hu, ?_⟩
  by_cases named : t.kind = .name
  · exact withoutCase_eq_of_capitalized spelled spelled' alike named
  · have same := recased.take_eq behind named
    rw [← whole, ← whole', ← length, ← String.length_toList, List.take_left, String.length_toList,
      length, ← String.length_toList, List.take_left] at same
    rw [eq_of_text_eq spelled' spelled (String.toList_inj.1 same)]

/-- Texts that differ in the letter case of names only have the same pieces but for that. -/
theorem pieces_recased {cs' : List Char} (h : cs.drop position = cs')
    (recased : Recased cs ds position (placedFrom position (pieces cs'))) :
    (pieces (ds.drop position)).map Piece.withoutCase = (pieces cs').map Piece.withoutCase := by
  fun_induction pieces cs' generalizing position with
  | case1 =>
      have none := recased.letters_drop position
      rw [h, capitals_nil, capitals, List.map_eq_nil_iff] at none
      rw [none, pieces]
  | case2 c rest t after taken ih =>
      have partition := partition_pieces (drop_behind_token (h.trans (append_of_token? taken).symm))
      rw [← h] at taken
      obtain ⟨u, hu, alike⟩ := recased.exists_token? partition.behind taken
      have next := drop_behind_token (append_of_token? taken).symm
      rw [pieces_of_token? hu, List.map_cons, List.map_cons, ih next recased.tail]
      exact congrArg (Piece.token · :: _) alike
  | case3 c rest none ih =>
      have partition := partition_pieces (drop_behind h)
      have here : ds[position]? = cs[position]? :=
        recased.elsewhere position (Nat.le_refl _) (not_inName_of_behind partition.behind)
      have hhead : (ds.drop position).head? = some c := by
        rw [List.head?_drop, here, ← List.head?_drop, h, List.head?_cons]
      obtain ⟨rest', hds⟩ := List.head?_eq_some_iff.1 hhead
      have skipped := startsToken_of_token?_eq_none none
      rw [hds, pieces_of_not_startsToken skipped, ← drop_behind hds, List.map_cons, List.map_cons,
        ih (drop_behind h) recased.skip]

theorem placedFrom_withoutCase (position : Nat) (found : List Piece) :
    placedFrom position (found.map Piece.withoutCase) =
      (placedFrom position found).map fun p => ⟨p.start, p.token.withoutCase⟩ := by
  induction found generalizing position with
  | nil => rfl
  | cons piece rest ih =>
      cases piece with
      | token t =>
          rw [List.map_cons, Piece.withoutCase, placedFrom, placedFrom, List.map_cons,
            length_withoutCase, ih]
      | skipped c => exact ih _

theorem skippedRun_withoutCase (found : List Piece) :
    skippedRun (found.map Piece.withoutCase) = skippedRun found := by
  induction found with
  | nil => rfl
  | cons piece rest ih =>
      cases piece with
      | token t => rfl
      | skipped c => rw [List.map_cons, Piece.withoutCase, skippedRun, skippedRun, ih]

theorem unexpected?_withoutCase (position : Nat) (found : List Piece) :
    unexpected? position (found.map Piece.withoutCase) = unexpected? position found := by
  induction found generalizing position with
  | nil => rfl
  | cons piece rest ih =>
      cases piece with
      | token t =>
          rw [List.map_cons, Piece.withoutCase, unexpected?, unexpected?, length_withoutCase, ih]
      | skipped c =>
          rw [List.map_cons, Piece.withoutCase, unexpected?, unexpected?, ih,
            skippedRun_withoutCase]

theorem places_withoutCase (found : List Piece) :
    (placedFrom 0 (found.map Piece.withoutCase)).map (fun p => (p.start, p.token.kind)) =
      (placedFrom 0 found).map fun p => (p.start, p.token.kind) := by
  rw [placedFrom_withoutCase, List.map_map]
  exact List.map_congr_left fun p _ => congrArg (Prod.mk p.start) (kind_withoutCase p.token)

theorem tokens_withoutCase (found : List Piece) :
    ((placedFrom 0 found).map Placed.token).map Token.withoutCase =
      (placedFrom 0 (found.map Piece.withoutCase)).map Placed.token := by
  rw [placedFrom_withoutCase, List.map_map, List.map_map]
  rfl

/-- Texts with the same pieces but for letter case are both lexed, or refused alike. -/
theorem tokenize_of_alike {text text' : String}
    (alike : (pieces text'.toList).map Piece.withoutCase =
      (pieces text.toList).map Piece.withoutCase) (strict : Bool) :
    tokenize strict text = .ok ((placedFrom 0 (pieces text.toList)).map Placed.token) ∧
        tokenize strict text' = .ok ((placedFrom 0 (pieces text'.toList)).map Placed.token) ∨
      ∃ cause, tokenize strict text = .error cause ∧ tokenize strict text' = .error cause := by
  have refused : unexpected? 0 (pieces text'.toList) = unexpected? 0 (pieces text.toList) := by
    rw [← unexpected?_withoutCase, alike, unexpected?_withoutCase]
  simp only [tokenize, refused, map_token_placedFrom]
  cases if strict then unexpected? 0 (pieces text.toList) else none with
  | none => exact .inl ⟨rfl, rfl⟩
  | some found => exact .inr ⟨_, rfl, rfl⟩

end Lexing

end Wordsheet.Formula
