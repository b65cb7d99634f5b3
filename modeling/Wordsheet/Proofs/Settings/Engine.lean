import Wordsheet.Proofs.Decimal.Overflow
import Wordsheet.Proofs.Formula.Registration
import Wordsheet.Settings

/-! # The constants of the settings

An entry of the settings is a constant if it has a number under the name of one; the first entry
that is none is refused, and without any the engine knows the standard constants and those of the
entries. Something else happens only at an entry with a whole number that is too large for a double,
or at one that is refused and has a whole number with too many digits to be shown.
-/

namespace Wordsheet.Settings

open Formula

/-! ## Entries -/

def isNumber : Yaml → Bool
  | .int _ | .float _ => true
  | _ => false

def namesConstant : Yaml → Bool
  | .text name => isName name
  | _ => false

def isConstant (field : Yaml × Yaml) : Bool :=
  namesConstant field.1 && isNumber field.2

/-- What an entry that is no constant is refused for: its value comes before its name. -/
def refusal (field : Yaml × Yaml) : EngineError :=
  if isNumber field.2 then .badName (.invalidConstantName field.1.asText)
  else .constantNoNumber field.1 field.2

def shown (field : Yaml × Yaml) : List Yaml :=
  if isNumber field.2 then [field.1] else [field.1, field.2]

/-- Whether a value is a whole number that is too large for a double. -/
def isTooLarge : Yaml → Bool
  | .int n => Decimal.overflow ≤ n.natAbs
  | _ => false

/-- What keeps an entry from being registered or refused. -/
def obstacle? (field : Yaml × Yaml) : Option EngineError :=
  if isTooLarge field.2 then some .constantTooLarge
  else if !isConstant field && !(shown field).all Yaml.isShowable then some .tooManyDigits
  else none

/-- The constant that an entry is. -/
def constantOf? (field : Yaml × Yaml) : Option Constant :=
  match field with
  | (.text name, .float x) => some ⟨name, x⟩
  | (.text name, .int n) => some ⟨name, nearest n⟩
  | _ => none

/-- What an engine cannot be made for because of an entry. -/
def failure? (field : Yaml × Yaml) : Option EngineError :=
  (obstacle? field).or (if isConstant field then none else some (refusal field))

def offerEntry (e : Engine) (field : Yaml × Yaml) : Engine :=
  match constantOf? field with
  | some c => e.offer c
  | none => e

variable {e : Engine} {field : Yaml × Yaml} {fields : List (Yaml × Yaml)} {name value : Yaml}

/-- A whole number is too large exactly if the double nearest to it is infinite. -/
theorem isTooLarge_int (n : Int) : isTooLarge (.int n) = (nearest n).isInf := by
  rw [Bool.eq_iff_iff, nearest, Decimal.isInf_toFloat_whole, isTooLarge, decide_eq_true_iff]

theorem constantValue_of_not_isNumber (h : isNumber value = false) (name : Yaml) :
    constantValue name value =
      .error (EngineError.showing [name, value] (.constantNoNumber name value)) := by
  cases value <;> first | rfl | cases h

theorem constantValue_of_isNumber (h : isNumber value = true) (name : Yaml) :
    ∃ x, constantValue name value =
        (if isTooLarge value then .error .constantTooLarge else .ok x) ∧
      ∀ s, constantOf? (.text s, value) = some ⟨s, x⟩ := by
  cases value with
  | float x => exact ⟨x, rfl, fun _ => rfl⟩
  | int n => exact ⟨nearest n, by rw [constantValue, isTooLarge_int], fun _ => rfl⟩
  | _ => cases h

theorem failure?_of_not_isNumber (h : isNumber value = false) (name : Yaml) :
    failure? (name, value) =
      some (EngineError.showing [name, value] (.constantNoNumber name value)) := by
  have small : isTooLarge value = false := by
    cases value with
    | int _ | float _ => cases h
    | _ => rfl
  cases clear : [name, value].all Yaml.isShowable <;>
    simp [failure?, obstacle?, isConstant, shown, refusal, EngineError.showing, small, h, clear]

theorem failure?_of_isNumber (h : isNumber value = true) (name : Yaml) :
    failure? (name, value) =
      if isTooLarge value then some .constantTooLarge
      else if namesConstant name then none
      else some (EngineError.showing [name] (.badName (.invalidConstantName name.asText))) := by
  cases large : isTooLarge value <;> cases named : namesConstant name <;>
    cases clear : [name].all Yaml.isShowable <;>
    simp [failure?, obstacle?, isConstant, shown, refusal, EngineError.showing, h, large, named,
      clear]

/-- An entry is registered unless there is something against it. -/
theorem registerConstant_eq (e : Engine) (field : Yaml × Yaml) :
    registerConstant e field.1 field.2 =
      match failure? field with
      | some cause => .error cause
      | none => .ok (offerEntry e field) := by
  obtain ⟨name, value⟩ := field
  rw [registerConstant]
  cases number : isNumber value with
  | false =>
      rw [constantValue_of_not_isNumber number, failure?_of_not_isNumber number]
      rfl
  | true =>
      obtain ⟨x, hvalue, hconstant⟩ := constantValue_of_isNumber number name
      rw [hvalue, failure?_of_isNumber number]
      cases isTooLarge value with
      | true => rfl
      | false =>
          cases name with
          | text s =>
              have offered : offerEntry e (.text s, value) = e.offer ⟨s, x⟩ := by
                rw [offerEntry, hconstant]
              rw [offered, offer_eq]
              change (e.register s x).mapError EngineError.badName = _
              rw [register_eq, namesConstant]
              cases isName s <;> rfl
          | _ => rfl

/-! ## The engine -/

def bare (s : Settings) : Engine :=
  { Engine.standard with strict := s.isOn "strict_tokens" }

theorem foldlM_registerConstant (fields : List (Yaml × Yaml)) (e : Engine) :
    fields.foldlM (fun e field => registerConstant e field.1 field.2) e =
      match fields.findSome? failure? with
      | some cause => .error cause
      | none => .ok (fields.foldl offerEntry e) := by
  induction fields generalizing e with
  | nil => rfl
  | cons field rest ih =>
      rw [List.foldlM_cons, registerConstant_eq, List.findSome?_cons]
      cases failure? field with
      | some cause => rfl
      | none => exact ih (offerEntry e field)

theorem foldl_offerEntry (fields : List (Yaml × Yaml)) (e : Engine) :
    fields.foldl offerEntry e = (fields.filterMap constantOf?).foldl Engine.offer e := by
  induction fields generalizing e with
  | nil => rfl
  | cons field rest ih =>
      rw [List.foldl_cons, List.filterMap_cons, ih, offerEntry]
      cases constantOf? field <;> rfl

variable {s : Settings}

/-- The engine is made of all entries, unless there is something against one: then it is refused for
the first such entry. -/
theorem engine_eq (h : s.constants = .ok fields) :
    s.engine =
      match fields.findSome? failure? with
      | some cause => .error cause
      | none => .ok ((fields.filterMap constantOf?).foldl Engine.offer s.bare) := by
  rw [engine, h, ← foldl_offerEntry]
  exact foldlM_registerConstant fields s.bare

/-- What an engine knows after constants have been offered to it: of each name the last one, in any
letter case. -/
theorem mem_offers_iff {seeds : List Constant}
    (made : Constants.registerAll Catalog.empty seeds = .ok e.constants) (given : List Constant)
    (c : Constant) :
    c ∈ (given.foldl Engine.offer e).constants.entries ↔
      lastRegistered? (seeds ++ given) c.name = some c := by
  have found (named : isName c.name = true) :
      (given.foldl Engine.offer e).constants.get? c.key = lastRegistered? (seeds ++ given) c.name :=
    (get?_registered made given _).trans (find?_key named _)
  rw [← Catalog.get?_key_eq_some_iff]
  constructor
  · intro h
    rwa [← found (isName_of_get? made h)]
  · intro h
    rwa [found (isName_of_lastRegistered? h)]

theorem offers_strict (given : List Constant) (e : Engine) :
    (given.foldl Engine.offer e).strict = e.strict := by
  induction given generalizing e with
  | nil => rfl
  | cons c given ih =>
      rw [List.foldl_cons, ih, offer_eq]
      split <;> rfl

/-! ## What is documented -/

/-- What entries should lead to: an engine if all of them are constants, else the refusal of the
first that is none. The engine knows the standard constants and behind them those of the entries, of
which the last one of a name counts, in any letter case. -/
structure Documented (s : Settings) (fields : List (Yaml × Yaml)) : Prop where
  made : (∃ e, s.engine = .ok e) ↔ ∀ field ∈ fields, isConstant field = true
  refused : ∀ before field rest, fields = before ++ field :: rest →
    (∀ f ∈ before, isConstant f = true) → isConstant field = false →
    s.engine = .error (refusal field)
  known : ∀ e, s.engine = .ok e → e.strict = s.isOn "strict_tokens" ∧
    e.functions = Functions.standard ∧ ∀ c, c ∈ e.constants.entries ↔
      lastRegistered? (Constants.standard.entries ++ fields.filterMap constantOf?) c.name = some c

theorem failure?_of_obstacle? {cause : EngineError} (h : obstacle? field = some cause) :
    failure? field = some cause := by
  rw [failure?, h]
  rfl

theorem failure?_of_isConstant (h : isConstant field = true) :
    failure? field = obstacle? field := by
  rw [failure?, if_pos h, Option.or_none]

theorem failure?_of_not_isConstant (clear : obstacle? field = none)
    (h : isConstant field = false) : failure? field = some (refusal field) := by
  rw [failure?, clear, h]
  rfl

theorem obstacle?_ten_pow (name : Yaml) :
    obstacle? (name, .int (10 ^ 400)) = some .constantTooLarge := by
  have large : isTooLarge (.int (10 ^ 400)) = true := by
    rw [isTooLarge, decide_eq_true_iff, Int.natAbs_pow]
    exact Decimal.overflow_le_ten_pow
  rw [obstacle?, if_pos large]

theorem refusal_ne_of_obstacle? {other : Yaml × Yaml} {cause : EngineError}
    (h : obstacle? field = some cause) : cause ≠ refusal other := by
  rintro rfl
  rw [obstacle?, refusal] at h
  split_ifs at h <;> cases h

section Entries

variable {before rest : List (Yaml × Yaml)} {cause : EngineError}

/-- The first entry that there is something against decides. -/
theorem engine_eq_error (h : s.constants = .ok (before ++ field :: rest))
    (clear : ∀ f ∈ before, failure? f = none) (failed : failure? field = some cause) :
    s.engine = .error cause := by
  have found : (before ++ field :: rest).findSome? failure? = some cause :=
    List.findSome?_eq_some_iff.2 ⟨before, field, rest, rfl, failed, clear⟩
  rw [engine_eq h, found]

/-- Where constants stand in front of an entry with an obstacle, it is an obstacle that decides. -/
theorem exists_obstacle (h : s.constants = .ok (before ++ field :: rest))
    (constants : ∀ f ∈ before, isConstant f = true) (obstacle : obstacle? field = some cause) :
    ∃ other told, obstacle? other = some told ∧ s.engine = .error told := by
  rw [engine_eq h, List.findSome?_append, List.findSome?_cons, failure?_of_obstacle? obstacle]
  cases found : before.findSome? failure? with
  | none => exact ⟨field, cause, obstacle, rfl⟩
  | some told =>
      obtain ⟨f, hf, failed⟩ := List.exists_of_findSome?_eq_some found
      rw [failure?_of_isConstant (constants f hf)] at failed
      exact ⟨f, told, failed, rfl⟩

theorem exists_first_not_constant (h : ¬ ∀ field ∈ fields, isConstant field = true) :
    ∃ before field rest, fields = before ++ field :: rest ∧
      (∀ f ∈ before, isConstant f = true) ∧ isConstant field = false := by
  cases found : fields.find? (!isConstant ·) with
  | none =>
      refine absurd (fun field hf => ?_) h
      simpa using List.find?_eq_none.1 found field hf
  | some field =>
      obtain ⟨refused, before, rest, split, constants⟩ := List.find?_eq_some_iff_append.1 found
      exact ⟨before, field, rest, split, by simpa using constants, by simpa using refused⟩

/-- Whether no entry up to the first that is no constant has an obstacle. -/
def Clear (fields : List (Yaml × Yaml)) : Prop :=
  ∀ before field rest, fields = before ++ field :: rest →
    (∀ f ∈ before, isConstant f = true) → obstacle? field = none

theorem clear_cons_iff :
    Clear (field :: rest) ↔ obstacle? field = none ∧ (isConstant field = true → Clear rest) := by
  constructor
  · intro clear
    refine ⟨clear [] field rest rfl (List.forall_mem_nil _), fun constant => ?_⟩
    rintro before other behind rfl constants
    exact clear (field :: before) other behind rfl (List.forall_mem_cons.2 ⟨constant, constants⟩)
  · rintro ⟨free, clear⟩ before other behind split constants
    cases before with
    | nil =>
        cases split
        exact free
    | cons f before =>
        cases split
        obtain ⟨constant, constants⟩ := List.forall_mem_cons.1 constants
        exact clear constant before other behind rfl constants

theorem Clear.failure?_eq_none (clear : Clear (before ++ rest))
    (constants : ∀ f ∈ before, isConstant f = true) : ∀ f ∈ before, failure? f = none := by
  intro f hf
  rw [failure?_of_isConstant (constants f hf)]
  obtain ⟨front, back, rfl⟩ := List.append_of_mem hf
  refine clear front f (back ++ rest) (by simp) fun g hg => ?_
  exact constants g (List.mem_append_left _ hg)

theorem Clear.documented (clear : Clear fields) (h : s.constants = .ok fields) :
    Documented s fields := by
  have refused : ∀ before field rest, fields = before ++ field :: rest →
      (∀ f ∈ before, isConstant f = true) → isConstant field = false →
      s.engine = .error (refusal field) := by
    rintro before field rest rfl constants notConstant
    have free := clear before field rest rfl constants
    exact engine_eq_error h (clear.failure?_eq_none constants)
      (failure?_of_not_isConstant free notConstant)
  refine ⟨⟨fun ⟨e, made⟩ => ?_, fun constants => ?_⟩, refused, fun e made => ?_⟩
  · by_contra notAll
    obtain ⟨before, field, rest, split, constants, notConstant⟩ := exists_first_not_constant notAll
    exact nomatch made.symm.trans (refused before field rest split constants notConstant)
  · have none : fields.findSome? failure? = none := by
      rw [← List.append_nil fields] at clear
      exact List.findSome?_eq_none_iff.2 (clear.failure?_eq_none constants)
    exact ⟨_, by rw [engine_eq h, none]⟩
  · rw [engine_eq h] at made
    split at made
    · cases made
    · cases made
      refine ⟨offers_strict .., offers_functions .., fun c => ?_⟩
      exact mem_offers_iff rfl _ c

/-- The engine is what the entries should lead to exactly if no entry has an obstacle up to the
first that is no constant. An obstacle behind constants without one decides. -/
theorem documented_iff (h : s.constants = .ok fields) :
    (Documented s fields ↔ Clear fields) ∧
      ∀ before field rest cause, fields = before ++ field :: rest →
        (∀ f ∈ before, isConstant f = true ∧ obstacle? f = none) → obstacle? field = some cause →
        s.engine = .error cause := by
  refine ⟨⟨fun documented before field rest split constants => ?_, fun clear => clear.documented h⟩,
    ?_⟩
  · rw [Option.eq_none_iff_forall_ne_some]
    intro cause obstacle
    obtain ⟨other, told, hother, failed⟩ := exists_obstacle (split ▸ h) constants obstacle
    by_cases all : ∀ field ∈ fields, isConstant field = true
    · obtain ⟨e, made⟩ := documented.made.2 all
      exact nomatch made.symm.trans failed
    · obtain ⟨_, first, _, split, constants, notConstant⟩ := exists_first_not_constant all
      have refused := documented.refused _ first _ split constants notConstant
      exact refusal_ne_of_obstacle? hother (Except.error.inj (failed.symm.trans refused))
  · rintro before field rest cause rfl clear obstacle
    refine engine_eq_error h (fun f hf => ?_) (failure?_of_obstacle? obstacle)
    rw [failure?_of_isConstant (clear f hf).1, (clear f hf).2]

end Entries

theorem documented_iff_flag :
    let half : Yaml × Yaml := (.text "Half", .float 0.5)
    let flag : Yaml × Yaml := (.text "flag", .bool true)
    let big : Yaml × Yaml := (.text "big", .int (10 ^ 400))
    let settings (fields : List (Yaml × Yaml)) : Settings :=
      ⟨[(.text "constants", .mapping fields)]⟩
    Documented (settings [half, flag, big]) [half, flag, big] ∧
      (settings [half, big, flag]).engine = .error .constantTooLarge := by
  intro half flag big settings
  have large : obstacle? big = some .constantTooLarge := obstacle?_ten_pow _
  constructor
  · refine (documented_iff rfl).1.2 (clear_cons_iff.2 ⟨rfl, fun _ => clear_cons_iff.2 ⟨rfl, ?_⟩⟩)
    exact nofun
  · refine (documented_iff rfl).2 [half] big [flag] .constantTooLarge rfl ?_ large
    exact List.forall_mem_singleton.2 ⟨rfl, rfl⟩

theorem not_documented_tooLarge :
    let big : Yaml × Yaml := (.text "big", .int (10 ^ 400))
    let flag : Yaml × Yaml := (.text "flag", .bool true)
    ¬ Documented ⟨[(.text "constants", .mapping [big, flag])]⟩ [big, flag] := by
  intro big flag documented
  have large : failure? big = some .constantTooLarge :=
    failure?_of_obstacle? (obstacle?_ten_pow _)
  have refused := documented.refused [big] flag [] rfl (List.forall_mem_singleton.2 rfl) rfl
  exact nomatch refused.symm.trans (engine_eq_error rfl (List.forall_mem_nil _) large)

end Wordsheet.Settings
