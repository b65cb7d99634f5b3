import Wordsheet.Proofs.Session.Invariant
import Wordsheet.Proofs.Session.Scope

/-! # Where tables come from

Three commands bring tables into a workbook, and one takes them out: there is a table of a name
exactly if a request brought one in and no later request deleted it. Making a table refuses the
empty name. A copy does not, and neither does an import from a path that leads to no named file, so
they are the two ways in which a workbook gets a table without a name.
-/

namespace Wordsheet

namespace Path

theorem stemOf_eq_nil_iff (name : List Char) : stemOf name = [] ↔ name = [] := by
  constructor
  · intro h
    simp only [stemOf] at h
    split at h
    · next inside =>
        obtain ⟨behind, before⟩ := Bool.and_eq_true_iff.1 inside
        have := of_decide_eq_true behind
        have empty := congrArg List.length h
        rw [List.length_take, List.length_nil] at empty
        omega
    · exact h
  · rintro rfl
    rfl

theorem stem_eq_empty_iff (p : Path) : p.stem = "" ↔ p.name = "" := by
  rw [stem, String.ofList_eq_empty_iff, stemOf_eq_nil_iff, String.toList_eq_nil_iff]

end Path

namespace Workbook

/-- Whether every table has a name, and is kept under one. -/
def Named (w : Workbook) : Prop :=
  ∀ kept ∈ w.tables.entries, kept.key ≠ "" ∧ kept.table.name ≠ ""

theorem Sound.named_iff {w : Workbook} (sound : w.Sound) :
    w.Named ↔ ¬ w.hasTable "" = true := by
  rw [hasTable_iff]
  constructor
  · rintro named ⟨kept, hk, unnamed⟩
    exact (named kept hk).1 unnamed
  · intro absent kept hk
    have named : kept.key ≠ "" := fun unnamed => absent ⟨kept, hk, unnamed⟩
    exact ⟨named, sound.stored kept hk ▸ named⟩

theorem hasTable_create (w : Workbook) (made name : String) :
    (w.create made).hasTable name = true ↔ w.hasTable name = true ∨ name = made := by
  rw [create]
  split
  · next known =>
      refine ⟨.inl, ?_⟩
      rintro (h | rfl)
      · exact h
      · exact known
  · exact hasTable_putTable ..

theorem hasTable_delete (w : Workbook) (gone name : String) :
    (w.delete gone).hasTable name = true ↔ w.hasTable name = true ∧ name ≠ gone := by
  rw [← table?_isSome, ← table?_isSome, table?_delete]
  split
  · next same => simp [same]
  · next other => exact (and_iff_left other).symm

end Workbook

namespace Session

/-! ## What a request brings in -/

/-- Whether a command brings in a table of a name, or finds one of that name there. -/
def Brings (s : Session) (name : String) : Command → Prop
  | .createTable made => name = made ∧ name ≠ ""
  | .copyTable source destination => name = destination ∧ s.workbook.hasTable source = true
  | .importTable file =>
      ∃ t, Table.importFrom s.store (s.resolve file) none s.settings.rowHeader = .ok t ∧
        t.name = name
  | _ => False

section Step

variable {s : Session} {command : Command} {name : String}

/-- A command on cells, an answer or a constant brings in no table and takes out none. -/
theorem hasTable_execute_of_kind
    (h : command.kind = .edit ∨ command.kind = .answer ∨ command.kind = .define) (name : String) :
    (s.execute command).session.workbook.hasTable name = s.workbook.hasTable name := by
  have confined := confined_respond s (.command : Request.Asks command (.command command))
  have same : (s.execute command).session.workbook.names = s.workbook.names ∨
      (s.execute command).session.workbook.table? name = s.workbook.table? name := by
    rcases h with edits | answers | defines
    · exact .inl (confined.edited edits)
    · exact .inl (congrArg Workbook.names (confined.answered answers))
    · refine .inr (confined.others name ?_)
      cases command with
      | defineConstant => exact List.not_mem_nil
      | _ => cases defines
  rcases same with same | same
  · rw [Bool.eq_iff_iff, Workbook.hasTable, Workbook.hasTable, Catalog.contains_iff,
      Catalog.contains_iff]
    exact iff_of_eq (congrArg (name ∈ ·) same)
  · rw [← Workbook.table?_isSome, ← Workbook.table?_isSome, same]

theorem hasTable_createTable (s : Session) (made name : String) :
    (s.createTable made).session.workbook.hasTable name = true ↔
      name = made ∧ name ≠ "" ∨ s.workbook.hasTable name = true := by
  rw [createTable]
  split
  · next unnamed =>
      refine (or_iff_right ?_).symm
      rintro ⟨rfl, named⟩
      exact named (by simpa using unnamed)
  · next named =>
      cases h : s.workbook.switchTo made with
      | ok w =>
          obtain ⟨known, rfl⟩ := Workbook.switchTo_eq_ok h
          refine (or_iff_right_of_imp ?_).symm
          rintro ⟨rfl, _⟩
          exact known
      | error cause =>
          refine (Workbook.hasTable_create ..).trans (Or.comm.trans (or_congr_left ?_))
          refine iff_self_and.2 ?_
          rintro rfl
          simpa using named

theorem hasTable_switchTable (s : Session) (chosen name : String) :
    (s.switchTable chosen).session.workbook.hasTable name = s.workbook.hasTable name := by
  rw [switchTable]
  cases h : s.workbook.switchTo chosen with
  | ok w =>
      obtain ⟨_, rfl⟩ := Workbook.switchTo_eq_ok h
      rfl
  | error cause => rfl

theorem hasTable_copyTable (s : Session) (source destination name : String) :
    (s.copyTable source destination).session.workbook.hasTable name = true ↔
      name = destination ∧ s.workbook.hasTable source = true ∨ s.workbook.hasTable name = true := by
  rw [copyTable, Workbook.copy, ← Workbook.table?_isSome s.workbook source]
  cases s.workbook.table? source with
  | none =>
      refine (or_iff_right ?_).symm
      rintro ⟨_, known⟩
      cases known
  | some t =>
      by_cases present : s.workbook.hasTable destination = true
      · simp only [if_pos present]
        refine (or_iff_right_of_imp ?_).symm
        rintro ⟨rfl, _⟩
        exact present
      · simp only [if_neg present]
        rw [and_iff_left (Option.isSome_some), or_comm]
        exact Workbook.hasTable_putTable ..

theorem hasTable_deleteTable (s : Session) (gone name : String) :
    (s.deleteTable gone).session.workbook.hasTable name = true ↔
      s.workbook.hasTable name = true ∧ name ≠ gone := by
  rw [deleteTable]
  split
  · exact Workbook.hasTable_delete ..
  · next absent =>
      refine (and_iff_left_of_imp fun h => ?_).symm
      rintro rfl
      exact absent h

theorem hasTable_importTable (s : Session) (file name : String) :
    (s.importTable file).session.workbook.hasTable name = true ↔
      (∃ t, Table.importFrom s.store (s.resolve file) none s.settings.rowHeader = .ok t ∧
        t.name = name) ∨ s.workbook.hasTable name = true := by
  cases h : Table.importFrom s.store (s.resolve file) none s.settings.rowHeader with
  | ok t =>
      rw [importTable]
      simp only [h]
      refine (Workbook.hasTable_putTable ..).trans (or_comm.trans (or_congr_left ?_))
      simp [eq_comm]
  | error cause =>
      have same : (s.importTable file).session = s := by
        rw [importTable_of_error h]
        split <;> rfl
      rw [same, or_iff_right]
      rintro ⟨t, read, _⟩
      cases read

/-- After a command there are the tables that it brings in and those that it does not delete. -/
theorem hasTable_execute (s : Session) (command : Command) (name : String) :
    (s.execute command).session.workbook.hasTable name = true ↔
      s.Brings name command ∨
        s.workbook.hasTable name = true ∧ command ≠ .deleteTable name := by
  have same (nothing : ¬ s.Brings name command) (other : command ≠ .deleteTable name) :
      s.workbook.hasTable name = true ↔
        s.Brings name command ∨
          s.workbook.hasTable name = true ∧ command ≠ .deleteTable name := by
    rw [or_iff_right nothing, and_iff_left other]
  cases command with
  | createTable made =>
      exact (hasTable_createTable ..).trans (or_congr_right (and_iff_left (by simp)).symm)
  | copyTable source destination =>
      exact (hasTable_copyTable ..).trans (or_congr_right (and_iff_left (by simp)).symm)
  | importTable file =>
      exact (hasTable_importTable ..).trans (or_congr_right (and_iff_left (by simp)).symm)
  | deleteTable gone =>
      refine (hasTable_deleteTable ..).trans ((or_iff_right id).trans ?_).symm
      rw [Ne, Ne, Command.deleteTable.injEq, eq_comm (a := gone)]
  | switchTable chosen =>
      rw [execute, hasTable_switchTable]
      exact same id (by simp)
  | showTable | listTables | exportTable | calculate | help =>
      rw [hasTable_execute_of_kind (.inr (.inl rfl))]
      exact same id (by simp)
  | defineConstant =>
      rw [hasTable_execute_of_kind (.inr (.inr rfl))]
      exact same id (by simp)
  | _ =>
      rw [hasTable_execute_of_kind (.inl rfl)]
      exact same id (by simp)

/-- A request asks for no second command. -/
theorem asks_iff {request : Request} (asks : request.Asks command) (other : Command) :
    request.Asks other ↔ other = command := by
  refine ⟨fun too => ?_, fun same => same ▸ asks⟩
  cases asks with
  | command =>
      cases too
      rfl
  | line h =>
      cases too with
      | line h' => exact Option.some.inj (h'.symm.trans h)

/-- After a request there are the tables that it brings in and those that it does not delete. -/
theorem hasTable_respond (s : Session) (request : Request) (name : String) :
    (s.respond request).session.workbook.hasTable name = true ↔
      (∃ command, request.Asks command ∧ s.Brings name command) ∨
        s.workbook.hasTable name = true ∧ ¬ request.Asks (.deleteTable name) := by
  rcases does_or_same s request with ⟨command, asks, _⟩ | ⟨silent, same⟩
  · simp only [respond_of_asks s asks, hasTable_execute, asks_iff asks, exists_eq_left]
    rw [ne_comm, Ne]
  · rw [same, or_iff_right, and_iff_left (silent _)]
    rintro ⟨command, asks, _⟩
    exact silent command asks

end Step

/-! ## What a run brings in -/

section Run

theorem exists_split_cons {α : Type} {P : List α → α → List α → Prop} {first : α} {all : List α} :
    (∃ before a rest, first :: all = before ++ a :: rest ∧ P before a rest) ↔
      P [] first all ∨
        ∃ before a rest, all = before ++ a :: rest ∧ P (first :: before) a rest := by
  constructor
  · rintro ⟨before, a, rest, split, h⟩
    cases before with
    | nil =>
        cases split
        exact .inl h
    | cons b before =>
        cases split
        exact .inr ⟨before, a, rest, rfl, h⟩
  · rintro (h | ⟨before, a, rest, rfl, h⟩)
    · exact ⟨[], first, all, rfl, h⟩
    · exact ⟨first :: before, a, rest, rfl, h⟩

def finding (s : Session) (store : Store) : Session :=
  { s with store }

/-- After some requests there are the tables that were there or that a request brought in, unless a
later one deleted them. -/
theorem hasTable_after (s : Session) (requests : List (Store × Request)) (name : String) :
    (s.after requests).workbook.hasTable name = true ↔
      s.workbook.hasTable name = true ∧
          (∀ later ∈ requests, ¬ later.2.Asks (.deleteTable name)) ∨
        ∃ before step rest, requests = before ++ step :: rest ∧
          (∃ command, step.2.Asks command ∧
            ((s.after before).finding step.1).Brings name command) ∧
          ∀ later ∈ rest, ¬ later.2.Asks (.deleteTable name) := by
  induction requests generalizing s with
  | nil => simp [after]
  | cons first rest ih =>
      -- what is there after the first request is what the rest may still delete
      rw [exists_split_cons, List.forall_mem_cons]
      refine (ih _).trans ?_
      rw [hasTable_respond, or_and_right, and_assoc, or_assoc, or_left_comm]
      rfl

/-- Whether a request brings in a table without a name: as a copy under the empty name, or from a
path without a last name. -/
def BringsUnnamed (s : Session) (request : Request) : Prop :=
  (∃ source, request.Asks (.copyTable source "") ∧ s.workbook.hasTable source = true) ∨
    ∃ file t, request.Asks (.importTable file) ∧ (s.resolve file).name = "" ∧
      Table.importFrom s.store (s.resolve file) none s.settings.rowHeader = .ok t

theorem bringsUnnamed_iff (s : Session) (request : Request) :
    s.BringsUnnamed request ↔ ∃ command, request.Asks command ∧ s.Brings "" command := by
  constructor
  · rintro (⟨source, asks, known⟩ | ⟨file, t, asks, nameless, read⟩)
    · exact ⟨_, asks, rfl, known⟩
    · refine ⟨_, asks, t, read, ?_⟩
      rw [Table.name_of_importFrom read, Path.stem_eq_empty_iff, nameless]
  · rintro ⟨command, asks, brings⟩
    cases command with
    -- a table is not made under the empty name
    | createTable made => exact absurd rfl brings.2
    | copyTable source destination =>
        obtain ⟨rfl, known⟩ := brings
        exact .inl ⟨source, asks, known⟩
    | importTable file =>
        obtain ⟨t, read, unnamed⟩ := brings
        rw [Table.name_of_importFrom read, Path.stem_eq_empty_iff] at unnamed
        exact .inr ⟨file, t, asks, unnamed, read⟩
    | _ => exact brings.elim

/-- The tables of a session that started empty all have names exactly if every request that brings
in one without is followed by one that deletes it. -/
theorem named_after_start_iff (settings : Settings) (engine : Formula.Engine) (base : Path)
    (store : Store) (requests : List (Store × Request)) :
    ((start settings engine base store).after requests).workbook.Named ↔
      ∀ before step rest, requests = before ++ step :: rest →
        (((start settings engine base store).after before).finding step.1).BringsUnnamed step.2 →
        ∃ later ∈ rest, later.2.Asks (.deleteTable "") := by
  have sound := sound_after_start settings engine base store requests
  have empty : (start settings engine base store).workbook.hasTable "" ≠ true := Bool.false_ne_true
  rw [sound.named_iff, hasTable_after, or_iff_right fun h => empty h.1]
  simp only [← bringsUnnamed_iff]
  push Not
  rfl

/-- A copy of a table under the empty name is made, which making a table refuses. -/
theorem not_named_copyTable :
    ¬ ∀ (settings : Settings) (engine : Formula.Engine) (base : Path) (store : Store)
      (requests : List (Store × Request)),
      ((start settings engine base store).after requests).workbook.Named := by
  intro all
  have created : Command.parse? "create table named A" = some (.createTable "A") := by decide
  have copied : Command.parse? "copy table A to \"\"" = some (.copyTable "A" "") := by decide
  let s : Session := start .defaults .standard ⟨"/", []⟩ (Store.empty [])
  let first : Store × Request := (s.store, .line "create table named A")
  let second : Store × Request := (s.store, .line "copy table A to \"\"")
  have known : (s.after [first]).workbook.hasTable "A" = true := by
    rw [after, respond, runLine, created]
    decide
  have unnamed : (s.after [first, second]).workbook.hasTable "" = true :=
    (hasTable_after ..).2 (.inr ⟨[first], second, [], rfl, ⟨_, .line copied, rfl, known⟩,
      List.forall_mem_nil _⟩)
  exact (sound_after_start ..).named_iff.1 (all _ _ _ _ _) unnamed

end Run

end Session

end Wordsheet
