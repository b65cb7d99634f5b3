import Wordsheet.Proofs.Formula.Dependence
import Wordsheet.Proofs.Session.Import
import Wordsheet.Proofs.Table.Frame

/-! # What commands may change

Every command changes the tables under a few names at most: names that it gives, or that of the
active table. All others stay as they are, and the tables that are there before and after it keep
the order in which they were made. One command alone changes constants, and only the one that it
names.
-/

namespace Wordsheet

/-- Whether a command may make another table active, or none. -/
def Command.activates : Command → Bool
  | .createTable _ | .switchTable _ | .deleteTable _ | .importTable _ => true
  | _ => false

namespace Session

/-- The names of the tables that a command may add, change or remove. -/
def targets (s : Session) (command : Command) : List String :=
  match command with
  | .createTable name | .deleteTable name | .copyTable _ name => [name]
  | .importTable file => [(s.resolve file).stem]
  | _ => if command.kind = .edit then s.workbook.active.toList else []

/-- What an outcome of a command leaves alone. -/
structure Confined (s : Session) (command : Command) (o : Outcome) : Prop where
  /-- Under any other name there is the table that was there, or still none. -/
  others : ∀ name ∉ s.targets command,
    o.session.workbook.table? name = s.workbook.table? name
  /-- An edit adds and removes no table. -/
  edited : command.kind = .edit → o.session.workbook.names = s.workbook.names
  answered : command.kind = .answer → o.session.workbook = s.workbook
  /-- Making, choosing, copying and deleting tables leaves every one as it is, but for the one that
  is deleted. -/
  arranged : command.kind = .arrange → ∀ name t, s.workbook.table? name = some t →
    o.session.workbook.table? name = some t ∨
      o.session.workbook.table? name = none ∧ command = .deleteTable name
  /-- An import puts one table under the name that it reports, or does nothing. -/
  loaded : command.kind = .load → o.Failed ∧ o.session.workbook = s.workbook ∨
    ∃ t : Table, o.reply = .ok ⟨true, s!"Imported table '{t.name}' ({t.rows.size} rows, "
        ++ s!"{t.columns.length} columns) and set as active.", none⟩ ∧
      ∀ name, o.session.workbook.table? name =
        if name = t.name then some t else s.workbook.table? name
  active : command.activates = false → o.session.workbook.active = s.workbook.active
  engine : command.kind ≠ .define → o.session.engine = s.engine
  /-- A constant that is defined is the only one that changes, in its value or its spelling. -/
  defined : ∀ name text, command = .defineConstant name text →
    ∀ key ≠ Text.capitalLetters name,
      o.session.engine.constants.get? key = s.engine.constants.get? key
  /-- The tables that are there before and after come in the same order. -/
  order : s.workbook.tables.SameOrder o.session.workbook.tables

/-! ## Commands -/

section Commands

variable {s : Session} {o : Outcome} {command : Command} {w : Workbook}

theorem get?_register {engine made : Formula.Engine} {value : Float} {key : String}
    (h : engine.register name value = .ok made) (apart : key ≠ Text.capitalLetters name) :
    made.constants.get? key = engine.constants.get? key := by
  rw [Formula.register_eq_ok h]
  exact (Catalog.get?_put ..).trans (if_neg apart)

theorem targets_of_edit (edits : command.kind = .edit) :
    s.targets command = s.workbook.active.toList := by
  cases command <;> first | rfl | cases edits

theorem confined_of_same (hw : o.session.workbook = s.workbook)
    (hengine : o.session.engine = s.engine) (why : o.Failed ∨ command.kind = .answer) :
    s.Confined command o where
  others _ _ := by rw [hw]
  edited _ := by rw [hw]
  answered _ := hw
  arranged _ _ _ found := .inl (hw ▸ found)
  loaded loads := .inl ⟨why.resolve_right (by rw [loads]; exact nofun), hw⟩
  active _ := by rw [hw]
  engine _ := hengine
  defined _ _ _ _ _ := by rw [hengine]
  order := hw ▸ .refl _

/-- A command on whole tables is confined if every table stays as it is, comes or goes. -/
theorem confined_of_arranged (arranges : command.kind = .arrange)
    (hs : o.session = s.withWorkbook w)
    (tables : ∀ name, w.table? name = s.workbook.table? name ∨
      name ∈ s.targets command ∧ (s.workbook.table? name = none ∨
        w.table? name = none ∧ command = .deleteTable name))
    (active : command.activates = false → w.active = s.workbook.active)
    (order : s.workbook.tables.SameOrder w.tables) : s.Confined command o := by
  have hw : o.session.workbook = w := by rw [hs]; rfl
  have hengine : o.session.engine = s.engine := by rw [hs]; rfl
  refine
    { others := fun name apart => hw ▸ (tables name).resolve_right fun h => apart h.1
      edited := fun h => nomatch arranges.symm.trans h
      answered := fun h => nomatch arranges.symm.trans h
      arranged := fun _ name t found => ?_
      loaded := fun h => nomatch arranges.symm.trans h
      active := hw ▸ active
      engine := fun _ => hengine
      defined := fun _ _ _ _ _ => by rw [hengine]
      order := hw ▸ order }
  rw [hw]
  rcases tables name with same | ⟨_, absent | gone⟩
  · exact .inl (same.trans found)
  · exact nomatch found.symm.trans absent
  · exact .inr gone

theorem confined_of_edited {t after : Table} (edits : command.kind = .edit)
    (active : s.workbook.activeTable? = some t) (hs : o.session = s.withTable after) :
    s.Confined command o := by
  have hw : o.session.workbook = s.workbook.changeActive after := by rw [hs]; rfl
  have hengine : o.session.engine = s.engine := by rw [hs]; rfl
  obtain ⟨name, hactive, found⟩ := Workbook.active_of_activeTable? active
  rw [Workbook.changeActive_of_active hactive] at hw
  have target : s.targets command = [name] := by
    rw [targets_of_edit edits, hactive]
    rfl
  refine
    { others := fun other apart => ?_
      edited := fun _ => ?_
      answered := fun h => nomatch edits.symm.trans h
      arranged := fun h => nomatch edits.symm.trans h
      loaded := fun h => nomatch edits.symm.trans h
      active := fun _ => hw ▸ rfl
      engine := fun _ => hengine
      defined := fun _ _ _ _ _ => by rw [hengine]
      order := hw ▸ Catalog.sameOrder_put .. }
  · rw [target, List.mem_singleton] at apart
    rw [hw, Workbook.table?_putTable, if_neg apart]
  · rw [hw]
    exact Workbook.names_putTable (Workbook.hasTable_of_table? found) after

theorem confined_of_imported {file : String} {t : Table}
    (h : Table.importFrom s.store (s.resolve file) none s.settings.rowHeader = .ok t)
    (hs : o.session = s.withWorkbook (s.workbook.putActive t))
    (hr : o.reply = .ok ⟨true, s!"Imported table '{t.name}' ({t.rows.size} rows, "
      ++ s!"{t.columns.length} columns) and set as active.", none⟩) :
    s.Confined (.importTable file) o := by
  have hw : o.session.workbook = s.workbook.putActive t := by rw [hs]; rfl
  have hengine : o.session.engine = s.engine := by rw [hs]; rfl
  have named : t.name = (s.resolve file).stem := Table.name_of_importFrom h
  refine
    { others := fun name apart => ?_
      edited := fun h => by cases h
      answered := fun h => by cases h
      arranged := fun h => by cases h
      loaded := fun _ => .inr ⟨t, hr, fun _ => hw ▸ Workbook.table?_putTable ..⟩
      active := fun h => by cases h
      engine := fun _ => hengine
      defined := fun _ _ _ _ _ => by rw [hengine]
      order := hw ▸ Catalog.sameOrder_put .. }
  rw [hw]
  exact (Workbook.table?_putTable ..).trans
    (if_neg fun same => apart (List.mem_singleton.2 (same.trans named)))

theorem confined_of_constant {text : String} {engine : Formula.Engine} {value : Float}
    (h : s.engine.register name value = .ok engine) (hs : o.session = { s with engine }) :
    s.Confined (.defineConstant name text) o := by
  have hw : o.session.workbook = s.workbook := by rw [hs]
  have hengine : o.session.engine = engine := by rw [hs]
  refine
    { others := fun _ _ => by rw [hw]
      edited := fun _ => by rw [hw]
      answered := fun _ => hw
      arranged := fun _ _ _ found => .inl (hw ▸ found)
      loaded := fun h => by cases h
      active := fun _ => by rw [hw]
      engine := fun other => absurd rfl other
      defined := ?_
      order := hw ▸ .refl _ }
  rintro _ _ ⟨⟩ key apart
  rw [hengine]
  exact get?_register h apart

theorem confined_of_does (does : s.Does o command) : s.Confined command o := by
  cases does with
  | same hs why => exact confined_of_same (by rw [hs]) (by rw [hs]) why
  | edited edits active _ hs => exact confined_of_edited edits active hs
  | created absent hs =>
      rw [Workbook.create_of_absent absent] at hs
      refine confined_of_arranged rfl hs (fun name => ?_) nofun (Catalog.sameOrder_put ..)
      exact (Workbook.table?_putTable_of_absent absent _ name).imp_right fun h =>
        ⟨List.mem_singleton.2 h.1, .inl h.2⟩
  -- a table that is made anew although it is there is only chosen
  | chosenAgain _ h hs | switched h hs =>
      obtain ⟨_, rfl⟩ := Workbook.switchTo_eq_ok h
      exact confined_of_arranged rfl hs (fun _ => .inl rfl) nofun (.refl _)
  | @deleted name hs =>
      refine confined_of_arranged rfl hs (fun other => ?_) nofun ?_
      · rw [Workbook.table?_delete]
        by_cases ho : other = name
        · exact .inr ⟨List.mem_singleton.2 ho, .inr ⟨if_pos ho, by rw [ho]⟩⟩
        · exact .inl (if_neg ho)
      · rw [Workbook.delete]
        split
        · exact Catalog.sameOrder_erase ..
        · exact .refl _
  | copied h hs =>
      obtain ⟨absent, t, _, rfl⟩ := Workbook.copy_eq_ok h
      refine confined_of_arranged rfl hs (fun name => ?_) (fun _ => rfl) (Catalog.sameOrder_put ..)
      exact (Workbook.table?_putTable_of_absent absent _ name).imp_right fun h =>
        ⟨List.mem_singleton.2 h.1, .inl h.2⟩
  | imported h hs hr => exact confined_of_imported h hs hr
  | defined h hs => exact confined_of_constant h hs

/-- A command leaves everything alone that it does not name, whether it succeeds or not. -/
theorem confined_respond (s : Session) {request : Request} {command : Command}
    (asks : request.Asks command) : s.Confined command (s.respond request) :=
  confined_of_does (does_of_asks s asks)

theorem confined_respond_deleteTable :
    ∃ s : Session, s.workbook.names = ["A", "B", "C"] ∧ s.workbook.active = some "C" ∧
      Request.Asks (.deleteTable "B") (.line "delete table B") ∧
      s.Confined (.deleteTable "B") (s.respond (.line "delete table B")) := by
  have asks : Request.Asks (.deleteTable "B") (.line "delete table B") := .line (by decide)
  let w : Workbook := ((Workbook.empty.create "A").create "B").create "C"
  let s : Session := ⟨w, .standard, .defaults, ⟨"/", []⟩, Store.empty []⟩
  exact ⟨s, by decide, by decide, asks, confined_respond s asks⟩

end Commands

end Session

end Wordsheet
