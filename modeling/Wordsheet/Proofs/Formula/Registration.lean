import Wordsheet.Proofs.Catalog
import Wordsheet.Proofs.Formula.Dependence
import Wordsheet.Proofs.Formula.HeadToken

/-! # Registered constants

The texts that can be registered as constants are those that a formula reads as a name. Of several
registrations of a name, whatever its letter case, the last counts: for the value of a formula, and
for the spelling and the value that are listed.
-/

namespace Wordsheet.Formula

open Text

/-! ## Names -/

section Names

variable {c : Char} {name other : String}

theorem tokenize_name (strict : Bool) (named : isName name = true) :
    tokenize strict name = .ok [.name name] := by
  have taken : token? (name.toList ++ []) = some (.name name, []) :=
    token?_append (.name named) nofun
  rw [List.append_nil] at taken
  have hpieces : pieces name.toList = [.token (.name name)] := by
    rw [pieces_of_token? taken, pieces]
  rw [tokenize, hpieces]
  cases strict <;> rfl

/-- The names are the texts that are read as one name. -/
theorem tokenize_eq_name_iff : tokenize false name = .ok [.name name] ↔ isName name = true := by
  refine ⟨fun lexed => ?_, tokenize_name false⟩
  have spelled : (Token.name name).Spelled :=
    spelled_of_mem_tokenize lexed List.mem_cons_self
  generalize ht : Token.name name = t at spelled
  cases spelled with
  | name named =>
      cases ht
      exact named
  | operator op => cases op <;> cases ht
  | _ => cases ht

theorem capitalLetter_of_continuesName (h : continuesName c = true) :
    capitalLetter c = [c.toUpper] := by
  unfold capitalLetter
  split <;> first | rfl | exact absurd h (by decide)

theorem continuesName_of_isName (named : isName name = true) :
    ∀ c ∈ name.toList, continuesName c = true := by
  rw [isName] at named
  cases hs : name.toList with
  | nil => exact List.forall_mem_nil _
  | cons c cs =>
      rw [hs] at named
      obtain ⟨starts, continues⟩ := Bool.and_eq_true_iff.1 named
      refine List.forall_mem_cons.2 ⟨?_, List.all_eq_true.1 continues⟩
      simp only [startsName, Bool.or_eq_true] at starts
      rcases starts with alpha | underscore
      · simp [continuesName, Char.isAlphanum, alpha]
      · simp [continuesName, underscore]

theorem flatMap_capitalLetter {cs : List Char} (h : ∀ c ∈ cs, continuesName c = true) :
    cs.flatMap capitalLetter = cs.map Char.toUpper := by
  induction cs with
  | nil => rfl
  | cons c cs ih =>
      obtain ⟨hc, hcs⟩ := List.forall_mem_cons.1 h
      rw [List.flatMap_cons, capitalLetter_of_continuesName hc, ih hcs]
      rfl

def upperCased (s : String) : String :=
  String.ofList (s.toList.map Char.toUpper)

/-- The capital form of a name is its ASCII capital form. -/
theorem capitalLetters_of_isName (named : isName name = true) :
    capitalLetters name = upperCased name := by
  rw [capitalLetters, flatMap_capitalLetter (continuesName_of_isName named), upperCased]

end Names

/-! ## Registrations in turn -/

def Engine.offer (e : Engine) (c : Constant) : Engine :=
  (e.register c.name c.value).toOption.getD e

/-- The last registration of a name that is not refused, in any letter case. -/
def lastRegistered? (given : List Constant) (name : String) : Option Constant :=
  given.reverse.find? fun c => isName c.name && upperCased c.name == upperCased name

section Registrations

variable {e : Engine} {c : Constant} {cs : Constants} {given : List Constant} {name : String}

theorem register_eq (e : Engine) (name : String) (value : Float) :
    e.register name value = if isName name then
        .ok { e with constants := e.constants.put ⟨name, value⟩ }
      else .error (.invalidConstantName name) := by
  rw [Engine.register, Constants.register]
  split <;> rfl

theorem offer_eq (e : Engine) (c : Constant) :
    e.offer c = if isName c.name then { e with constants := e.constants.put c } else e := by
  rw [Engine.offer, register_eq]
  split <;> rfl

/-- What is found under a key after registrations in turn. -/
theorem get?_offers (given : List Constant) (e : Engine) (key : String) :
    (given.foldl Engine.offer e).constants.get? key =
      (given.reverse.find? fun c => isName c.name && c.key == key).or (e.constants.get? key) := by
  induction given generalizing e with
  | nil => rfl
  | cons c given ih =>
      have hfirst : (e.offer c).constants.get? key =
          ([c].find? fun c => isName c.name && c.key == key).or (e.constants.get? key) := by
        rw [offer_eq]
        by_cases hc : isName c.name = true
        · rw [if_pos hc, Catalog.get?_put]
          by_cases hk : key = c.key
          · simp [hc, hk]
          · simp [hk, Ne.symm hk]
        · simp [hc]
      rw [List.foldl_cons, ih, hfirst, List.reverse_cons, List.find?_append, Option.or_assoc]

/-- Under the capital form of a name the last registration of it is found. -/
theorem find?_key (named : isName name = true) (given : List Constant) :
    (given.reverse.find? fun c => isName c.name && c.key == capitalLetters name) =
      lastRegistered? given name := by
  rw [lastRegistered?, capitalLetters_of_isName named]
  congr 1
  funext c
  cases hc : isName c.name with
  | false => rfl
  | true => rw [Constant.key, capitalLetters_of_isName hc]

theorem offers_eq_of_registerAll {made : Constants} (h : cs.registerAll given = .ok made)
    (hcs : e.constants = cs) : (given.foldl Engine.offer e).constants = made := by
  induction given generalizing cs e with
  | nil =>
      cases h
      exact hcs
  | cons c given ih =>
      rw [Constants.registerAll, List.foldlM_cons, Constants.register] at h
      by_cases hc : isName c.name = true
      · rw [if_pos hc] at h
        refine ih h ?_
        rw [offer_eq, if_pos hc, hcs]
      · rw [if_neg hc] at h
        cases h

/-- What is found after registrations, those that an engine was made with included. -/
theorem get?_registered {seeds : List Constant}
    (made : Constants.registerAll Catalog.empty seeds = .ok e.constants) (calls : List Constant)
    (key : String) :
    (calls.foldl Engine.offer e).constants.get? key =
      (seeds ++ calls).reverse.find? fun c => isName c.name && c.key == key := by
  have first := offers_eq_of_registerAll (e := { e with constants := Catalog.empty }) made rfl
  have hseeds := get?_offers seeds { e with constants := Catalog.empty } key
  rw [first] at hseeds
  have hnone : (Catalog.empty : Constants).get? key = none := rfl
  rw [get?_offers, hseeds, hnone, Option.or_none, List.reverse_append, List.find?_append]

theorem offers_functions (calls : List Constant) (e : Engine) :
    (calls.foldl Engine.offer e).functions = e.functions := by
  induction calls generalizing e with
  | nil => rfl
  | cons c calls ih =>
      rw [List.foldl_cons, ih, offer_eq]
      split <;> rfl

/-- A formula that is one name has the value of the constant. The name of a function that is none of
the constants misses its argument. -/
theorem evaluate_name (e : Engine) (table : Option Table) (named : isName name = true) :
    e.evaluate name table =
      match e.constants.get? (capitalLetters name) with
      | some c => .ok c.value
      | none =>
          if e.functions.has name then .error (.error (.missingArgument name))
          else .error (.error (.unrecognizedToken name)) := by
  have alone {t : Token} (converted : toPostfix e.toVocabulary [.name name] = .ok [t]) :
      e.evaluate name table = evaluatePostfix ⟨e.toVocabulary, table⟩ [t] := by
    rw [evaluate_eq (tokenize_name e.strict named), converted]
    rfl
  have has : e.constants.has name = (e.constants.get? (capitalLetters name)).isSome :=
    (Catalog.get?_isSome ..).symm
  cases found : e.constants.get? (capitalLetters name) with
  | some c =>
      rw [found] at has
      have converted : toPostfix e.toVocabulary [.name name] =
          .ok [(Token.name name).marked .constant] := by
        simp only [toPostfix, postfixFrom, Token.name, has]
        rfl
      rw [alone converted]
      simp only [evaluatePostfix, takeAll_cons, take, Token.marked, Token.name, Constants.value?,
        found]
      rfl
  | none =>
      rw [found] at has
      cases hf : e.functions.has name with
      | true =>
          have converted : toPostfix e.toVocabulary [.name name] =
              .ok [(Token.name name).marked .function] := by
            simp only [toPostfix, postfixFrom, Token.name, has, hf]
            rfl
          obtain ⟨f, hf⟩ := Option.isSome_iff_exists.1 ((Catalog.get?_isSome ..).trans hf)
          rw [alone converted]
          simp only [evaluatePostfix, takeAll_cons, take, Token.marked, Token.name, applyFunction,
            Functions.named?, hf]
          rfl
      | false =>
          have converted : toPostfix e.toVocabulary [.name name] = .ok [.name name] := by
            simp only [toPostfix, postfixFrom, Token.name, has, hf]
            rfl
          rw [alone converted]
          rfl

end Registrations

/-! ## The list of constants -/

theorem pairwise_sorted (cs : Constants) : cs.sorted.Pairwise fun a b => a.key < b.key := by
  have le : cs.sorted.Pairwise fun a b => decide (a.key ≤ b.key) = true := by
    refine List.pairwise_mergeSort (fun a b c hab hbc => ?_) (fun a b => ?_) cs.entries
    · rw [decide_eq_true_eq] at *
      exact String.le_trans hab hbc
    · simpa using String.le_total a.key b.key
  have distinct : (cs.sorted.map Constant.key).Nodup :=
    ((List.mergeSort_perm cs.entries _).map Constant.key).nodup_iff.2 cs.distinct
  have ne : cs.sorted.Pairwise fun a b => a.key ≠ b.key := List.pairwise_map.1 distinct
  refine (le.and ne).imp fun h => String.not_le.1 fun above => ?_
  exact h.2 (String.le_antisymm (of_decide_eq_true h.1) above)

theorem mem_sorted_iff (cs : Constants) (c : Constant) :
    c ∈ cs.sorted ↔ cs.get? c.key = some c := by
  rw [Constants.sorted, List.mem_mergeSort]
  exact (cs.get?_key_eq_some_iff c).symm

/-- The constants that are listed have names. -/
theorem isName_of_get? {e : Engine} {c : Constant} {seeds calls : List Constant}
    (made : Constants.registerAll Catalog.empty seeds = .ok e.constants) {key : String}
    (h : (calls.foldl Engine.offer e).constants.get? key = some c) : isName c.name = true := by
  rw [get?_registered made] at h
  have found := List.find?_some h
  exact (Bool.and_eq_true_iff.1 found).1

theorem isName_of_lastRegistered? {given : List Constant} {name : String} {c : Constant}
    (h : lastRegistered? given name = some c) : isName c.name = true := by
  have found := List.find?_some h
  exact (Bool.and_eq_true_iff.1 found).1

/-- The texts that can be registered are those that are read as one name, and a registration that is
refused changes nothing. After any registrations a name has the value that was last registered for
it in any letter case, whether it is the name of a function or not; without any it is not known. The
list of constants holds the last registration of each name, in the order of the capital forms. -/
theorem registered_names {seeds : List Constant} {e : Engine}
    (made : Constants.registerAll Catalog.empty seeds = .ok e.constants) (calls : List Constant) :
    let after := calls.foldl Engine.offer e
    (∀ (before : Engine) (name : String) (value : Float),
      ((∃ made, before.register name value = .ok made) ↔
        tokenize false name = .ok [.name name]) ∧
      ((∀ made, before.register name value ≠ .ok made) →
        before.register name value = .error (.invalidConstantName name) ∧
          before.offer ⟨name, value⟩ = before)) ∧
    (∀ (name : String) (table : Option Table), isName name = true →
      (∀ c, lastRegistered? (seeds ++ calls) name = some c →
        after.evaluate name table = .ok c.value) ∧
      (lastRegistered? (seeds ++ calls) name = none → e.functions.has name = false →
        after.evaluate name table = .error (.error (.unrecognizedToken name)))) ∧
    after.constants.sorted.Pairwise (fun a b => upperCased a.name < upperCased b.name) ∧
    ∀ c, c ∈ after.constants.sorted ↔ lastRegistered? (seeds ++ calls) c.name = some c := by
  intro after
  have found {name : String} (named : isName name = true) :
      after.constants.get? (capitalLetters name) = lastRegistered? (seeds ++ calls) name :=
    (get?_registered made calls _).trans (find?_key named _)
  have named {c : Constant} (h : c ∈ after.constants.sorted) : isName c.name = true :=
    isName_of_get? made ((mem_sorted_iff ..).1 h)
  refine ⟨fun before name value => ?_, fun name table hname => ?_, ?_, fun c => ?_⟩
  · rw [tokenize_eq_name_iff, register_eq, offer_eq]
    cases isName name with
    | true => exact ⟨iff_of_true ⟨_, rfl⟩ rfl, fun refused => absurd rfl (refused _)⟩
    | false => exact ⟨iff_of_false nofun nofun, fun _ => ⟨rfl, rfl⟩⟩
  · rw [evaluate_name after table hname, found hname]
    refine ⟨fun c hc => ?_, fun hnone unknown => ?_⟩
    · rw [hc]
    · rw [hnone, offers_functions, unknown]
      rfl
  · refine (pairwise_sorted after.constants).imp_of_mem fun ha hb lt => ?_
    rwa [Constant.key, Constant.key, capitalLetters_of_isName (named ha),
      capitalLetters_of_isName (named hb)] at lt
  · constructor
    · intro h
      rw [← found (named h)]
      exact (mem_sorted_iff ..).1 h
    · intro h
      rw [← found (isName_of_lastRegistered? h)] at h
      exact (mem_sorted_iff ..).2 h

theorem registered_names_sqrt :
    let seeds : List Constant := Constants.standard.entries
    let calls : List Constant := [⟨"tau", 6.28⟩, ⟨"Sqrt", 2⟩, ⟨"2x", 1⟩, ⟨"TAU", 7⟩]
    let after := calls.foldl Engine.offer Engine.standard
    Constants.registerAll Catalog.empty seeds = .ok Engine.standard.constants ∧
      after.evaluate "tau" none = .ok 7 ∧ after.evaluate "sqrt" none = .ok 2 ∧
      after.evaluate "x" none = .error (.error (.unrecognizedToken "x")) ∧
      (⟨"TAU", 7⟩ : Constant) ∈ after.constants.sorted := by
  intro seeds calls after
  have made : Constants.registerAll Catalog.empty seeds = .ok Engine.standard.constants := rfl
  obtain ⟨_, values, _, listed⟩ := registered_names made calls
  have tau : lastRegistered? (seeds ++ calls) "tau" = some ⟨"TAU", 7⟩ := rfl
  have again : lastRegistered? (seeds ++ calls) "TAU" = some ⟨"TAU", 7⟩ := rfl
  have sqrt : lastRegistered? (seeds ++ calls) "sqrt" = some ⟨"Sqrt", 2⟩ := rfl
  have x : lastRegistered? (seeds ++ calls) "x" = none := rfl
  exact ⟨made, (values "tau" none (by decide)).1 _ tau, (values "sqrt" none (by decide)).1 _ sqrt,
    (values "x" none (by decide)).2 x (by decide), (listed _).2 again⟩

end Wordsheet.Formula
