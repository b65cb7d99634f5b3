import Wordsheet.Proofs.EventLog.Recorder
import Wordsheet.Proofs.Formula.Confinement
import Wordsheet.Proofs.Session.Scope

/-! # What the event log tells of a session

A request adds one event to the log of a session at most. The event tells what the request did to
the tables, to the choice of the active one and to the constants, and of every formula that was
evaluated. There is one exception: a table that is to be made although it is there becomes active
without an event.
-/

namespace Wordsheet

/-- Whether some events are a single one, of one of some happenings. -/
def Told (events : List Event) (happenings : List Happening) : Prop :=
  ∃ e, events = [e] ∧ e.happening ∈ happenings

namespace Session

/-- The formulas that a request evaluates: what is to be calculated, and what is to be stored behind
the mark of a formula in a cell that is there. -/
inductive Evaluates (s : Session) (request : Request) : String → Prop where
  | calculate {text : String} (asks : request.Asks (.calculate text)) :
      Evaluates s request ((afterMark? s.settings.marker text).getD text)
  | set {row column value expression : String} {t : Table}
      (asks : request.Asks (.setCell row column value))
      (active : s.workbook.activeTable? = some t) (hr : t.hasRow row = true)
      (hc : t.hasColumn column = true)
      (marked : afterMark? s.settings.marker value = some expression) :
      Evaluates s request expression

/-- Whether events account for what a request does. -/
structure Accounted (s : Session) (request : Request) (events : List Event) : Prop where
  tables : (s.respond request).session.workbook.names ≠ s.workbook.names →
    Told events [.tableCreated, .tableDeleted, .tableCopied, .tableImported]
  active : (s.respond request).session.workbook.active ≠ s.workbook.active →
    Told events [.tableCreated, .tableSwitched, .tableDeleted, .tableImported]
  imported : ∀ file, request.Asks (.importTable file) → (s.respond request).Succeeded →
    Told events [.tableImported]
  defined : ∀ name text, request.Asks (.defineConstant name text) →
    (s.respond request).Succeeded → Told events [.constantRegistered]
  evaluated : ∀ expression value, s.Evaluates request expression →
    s.engine.evaluate expression s.workbook.activeTable? = .ok value →
      Told events [.formulaEvaluated]
  failed : ∀ expression failure, s.Evaluates request expression →
    s.engine.evaluate expression s.workbook.activeTable? = .error failure →
      ∃ cause e, failure = .error cause ∧ events = [e] ∧ e.happening = .formulaFailed ∧
        e.code = some cause.code
  rejected : ∀ line, request = .line line → Command.parse? line = none →
    Told events [.commandRejected]

/-- Whether a request is to make a table that is there and is not the active one. -/
def ChoosesAnew (s : Session) (request : Request) : Prop :=
  ∃ name, request.Asks (.createTable name) ∧ name ≠ "" ∧ s.workbook.hasTable name = true ∧
    s.workbook.active ≠ some name

/-- The events that a log takes for what a request does. -/
def logged (s : Session) (log : Path) (time : String) (request : Request) : List Event :=
  Recorder.taken (s.respond request).session.store log time (s.respond request).notice

/-! ## Commands -/

section Commands

variable {s : Session} {o : Outcome} {command : Command}

theorem tells_mono {few more : List Happening} (tells : o.Tells few) (sub : few ⊆ more) :
    o.Tells more := by
  obtain ⟨n, hn, happened, writable⟩ := tells
  exact ⟨n, hn, sub happened, writable⟩

theorem Does.store (does : s.Does o command) (other : ∀ file, command ≠ .exportTable file) :
    o.session.store = s.store := by
  cases does with
  | same _ _ files => exact files other
  | edited _ _ _ hs | created _ hs | chosenAgain _ _ hs | switched _ hs | deleted hs
    | copied _ hs | imported _ hs | defined _ hs => exact hs ▸ rfl

theorem Does.store_or_workbook (does : s.Does o command) :
    o.session.store = s.store ∨ o.session.workbook = s.workbook := by
  cases does with
  | same hs => exact .inr (by rw [hs])
  | edited _ _ _ hs | created _ hs | chosenAgain _ _ hs | switched _ hs | deleted hs
    | copied _ hs | imported _ hs | defined _ hs => exact .inl (hs ▸ rfl)

theorem Does.tells_tables (does : s.Does o command)
    (changed : o.session.workbook.names ≠ s.workbook.names) :
    o.Tells [.tableCreated, .tableDeleted, .tableCopied, .tableImported] := by
  cases does with
  | same hs | defined _ hs => exact absurd (congrArg (·.workbook.names) hs) changed
  | edited edits active _ hs =>
      exact absurd ((confined_of_edited edits active hs).edited edits) changed
  | chosenAgain _ h hs | switched h hs =>
      obtain ⟨_, rfl⟩ := Workbook.switchTo_eq_ok h
      exact absurd (congrArg (·.workbook.names) hs) changed
  | created _ _ _ told | deleted _ _ told | copied _ _ _ told | imported _ _ _ told =>
      exact tells_mono told (by simp)

theorem Does.tells_active (does : s.Does o command)
    (changed : o.session.workbook.active ≠ s.workbook.active)
    (other : ∀ name, command = .createTable name → name ≠ "" →
      s.workbook.hasTable name = true → s.workbook.active = some name) :
    o.Tells [.tableCreated, .tableSwitched, .tableDeleted, .tableImported] := by
  cases does with
  | same hs | defined _ hs => exact absurd (congrArg (·.workbook.active) hs) changed
  | edited _ _ _ hs =>
      rw [hs] at changed
      exact absurd (Workbook.active_changeActive ..) changed
  | copied h hs =>
      obtain ⟨_, t, _, rfl⟩ := Workbook.copy_eq_ok h
      exact absurd (congrArg (·.workbook.active) hs) changed
  | chosenAgain named h hs =>
      obtain ⟨known, rfl⟩ := Workbook.switchTo_eq_ok h
      exact absurd (by rw [hs, other _ rfl named known]; rfl) changed
  | created _ _ _ told | switched _ _ _ told | deleted _ _ told | imported _ _ _ told =>
      exact tells_mono told (by simp)

theorem Does.tells_imported {file : String} (does : s.Does o (.importTable file))
    (ok : o.Succeeded) : o.Tells [.tableImported] := by
  cases does with
  | same _ why => exact absurd (why.resolve_right nofun) (Outcome.not_failed_of_succeeded ok)
  | edited edits => cases edits
  | imported _ _ _ told => exact told

theorem Does.tells_defined {name text : String} (does : s.Does o (.defineConstant name text))
    (ok : o.Succeeded) : o.Tells [.constantRegistered] := by
  cases does with
  | same _ why => exact absurd (why.resolve_right nofun) (Outcome.not_failed_of_succeeded ok)
  | edited edits => cases edits
  | defined _ _ _ told => exact told

end Commands

/-! ## Formulas -/

section Formulas

variable {s : Session} {request : Request} {expression : String}

theorem respond_of_evaluates (evaluates : s.Evaluates request expression) :
    (s.respond request).session.store = s.store ∧
      ∃ run, s.respond request = s.withValue expression run := by
  cases evaluates with
  | calculate asks => exact ⟨(does_of_asks s asks).store nofun, _, respond_of_asks s asks⟩
  | @set row column value _ t asks active hr hc marked =>
      obtain ⟨content, found⟩ := Table.exists_getCell hr hc
      refine ⟨(does_of_asks s asks).store nofun,
        fun result => s.storeCell t row column (plainText result), ?_⟩
      rw [respond_of_asks s asks]
      simp only [execute, setCell, onTable, active, found, marked]

theorem isWritable_formulaContext (s : Session) (expression : String)
    (more : List (String × Json)) :
    (Json.object (s.formulaContext expression ++ more)).isWritable =
      (Json.object more).isWritable := by
  rw [formulaContext]
  cases s.workbook.activeTable? <;> rfl

theorem notice_withValue_of_ok {value : Float}
    (h : s.engine.evaluate expression s.workbook.activeTable? = .ok value)
    (run : Float → Outcome) :
    (s.withValue expression run).notice = some (s.valueNotice expression value) := by
  rw [withValue, h]
  rfl

theorem notice_withValue_of_error {cause : Formula.Error}
    (h : s.engine.evaluate expression s.workbook.activeTable? = .error (.error cause))
    (run : Float → Outcome) :
    (s.withValue expression run).notice = some (s.failureNotice expression cause) := by
  rw [withValue, h]
  rfl

end Formulas

/-! ## Requests -/

section Requests

variable {s : Session} {request : Request} {log : Path} (time : String)

theorem logged_of_notice {n : Notice} (works : s.store.takes log = true)
    (hs : (s.respond request).session.store = s.store)
    (hn : (s.respond request).notice = some n)
    (writable : (Json.object n.context).isWritable = true) :
    s.logged log time request = [(n.at time).clipped] := by
  rw [logged, Recorder.taken, hs, if_pos works, hn]
  exact List.filter_cons_of_pos ((n.isWritable_clipped_at time).trans writable)

theorem told_of_tells {happenings : List Happening} (works : s.store.takes log = true)
    (hs : (s.respond request).session.store = s.store)
    (tells : (s.respond request).Tells happenings) :
    Told (s.logged log time request) happenings := by
  obtain ⟨n, hn, happened, writable⟩ := tells
  exact ⟨_, logged_of_notice time works hs hn writable, happened⟩

/-- A change of the workbook is told if the command that makes it tells it. -/
theorem told_of_changed {α : Type} {part : Workbook → α} {happenings : List Happening}
    (works : s.store.takes log = true)
    (changed : part (s.respond request).session.workbook ≠ part s.workbook)
    (tells : ∀ command, request.Asks command → s.Does (s.respond request) command →
      (s.respond request).Tells happenings) :
    Told (s.logged log time request) happenings := by
  rcases does_or_same s request with ⟨command, asks, does⟩ | ⟨_, hs⟩
  · -- what changes files, and perhaps the log itself, leaves the workbook as it is
    rcases does.store_or_workbook with hs | hw
    · exact told_of_tells time works hs (tells command asks does)
    · exact absurd (congrArg part hw) changed
  · exact absurd (congrArg (part ·.workbook) hs) changed

theorem accounted_of_not_choosesAnew (works : s.store.takes log = true)
    (other : ¬ s.ChoosesAnew request) : s.Accounted request (s.logged log time request) where
  tables changed := told_of_changed time works changed fun _ _ does => does.tells_tables changed
  active changed := told_of_changed time works changed fun command asks does =>
    does.tells_active changed fun name created named known => by
      by_contra inactive
      exact other ⟨name, created ▸ asks, named, known, inactive⟩
  imported file asks ok :=
    have does := does_of_asks s asks
    told_of_tells time works (does.store nofun) (does.tells_imported ok)
  defined name text asks ok :=
    have does := does_of_asks s asks
    told_of_tells time works (does.store nofun) (does.tells_defined ok)
  evaluated expression value evaluates h := by
    obtain ⟨hs, run, ho⟩ := respond_of_evaluates evaluates
    have hn := (congrArg Outcome.notice ho).trans (notice_withValue_of_ok h run)
    have writable := s.isWritable_formulaContext expression [("result", .float value)]
    exact ⟨_, logged_of_notice time works hs hn writable, List.mem_cons_self⟩
  failed expression failure evaluates h := by
    obtain ⟨hs, run, ho⟩ := respond_of_evaluates evaluates
    rcases Formula.evaluate_value_or_raises s.engine s.workbook.activeTable? expression with
      ⟨value, hv⟩ | ⟨cause, _, hc⟩
    · exact nomatch hv.symm.trans h
    · cases hc.symm.trans h
      have hn := (congrArg Outcome.notice ho).trans (notice_withValue_of_error hc run)
      have writable := s.isWritable_formulaContext expression []
      rw [List.append_nil] at writable
      exact ⟨cause, _, rfl, logged_of_notice time works hs hn writable, rfl, rfl⟩
  rejected line hr unread := by
    subst hr
    have ho : s.respond (.line line) = s.runLine line := rfl
    rw [runLine, unread] at ho
    exact ⟨_, logged_of_notice time works (by rw [ho]) (by rw [ho]) rfl, List.mem_cons_self⟩

/-- A table that is made although it is there becomes active, and no event tells it. -/
theorem not_accounted_of_choosesAnew (anew : s.ChoosesAnew request) :
    s.logged log time request = [] ∧ ¬ s.Accounted request (s.logged log time request) := by
  obtain ⟨name, asks, named, known, inactive⟩ := anew
  have switched : s.workbook.switchTo name = .ok { s.workbook with active := some name } :=
    if_pos known
  have ho := respond_of_asks s asks
  rw [execute, createTable, if_neg (by simpa using named), switched] at ho
  have silent : s.logged log time request = [] := by
    rw [logged, Recorder.taken, ho]
    exact ite_self _
  refine ⟨silent, fun accounted => ?_⟩
  have changed : (s.respond request).session.workbook.active ≠ s.workbook.active := by
    rw [ho]
    exact inactive.symm
  obtain ⟨e, one, _⟩ := accounted.active changed
  rw [silent] at one
  cases one

/-- A request adds one event to a log that works at most. The events account for what it does unless
it is to make a table that is there: that becomes active without an event. -/
theorem accounted_iff (s : Session) (request : Request) {r : Recorder} {log : Path}
    (sink : r.sink = .log log) (works : s.store.takes log = true) (now : Moment) :
    (r.note (s.respond request).session.store now (s.respond request).notice).2.1.bytesAt log =
        (s.respond request).session.store.bytesAt log ++
          (s.logged log now.text request).flatMap Event.bytes ∧
      (s.logged log now.text request).length ≤ 1 ∧
      ((∀ file, ¬ request.Asks (.exportTable file)) →
        (s.respond request).session.store = s.store) ∧
      (s.Accounted request (s.logged log now.text request) ↔ ¬ s.ChoosesAnew request) := by
  refine ⟨Recorder.bytesAt_note sink _ now _, Recorder.length_taken_le_one .., fun other => ?_,
    fun accounted anew => (not_accounted_of_choosesAnew now.text anew).2 accounted,
    accounted_of_not_choosesAnew now.text works⟩
  rcases does_or_same s request with ⟨command, asks, does⟩ | ⟨_, hs⟩
  · exact does.store fun file exports => other file (exports ▸ asks)
  · exact congrArg Session.store hs

def besideLog : Session :=
  let s := Session.start .defaults .standard ⟨"/", []⟩ ((Store.empty []).put ⟨["logs"], none⟩)
  ((s.respond (.command (.createTable "A"))).session.respond (.command (.createTable "B"))).session

theorem accounted_iff_switchTable :
    besideLog.store.takes (logFile ⟨"/", []⟩) = true ∧
      ¬ besideLog.ChoosesAnew (.command (.switchTable "A")) ∧
      besideLog.Accounted (.command (.switchTable "A"))
        (besideLog.logged (logFile ⟨"/", []⟩) "now" (.command (.switchTable "A"))) := by
  have works : besideLog.store.takes (logFile ⟨"/", []⟩) = true := by decide
  have other : ¬ besideLog.ChoosesAnew (.command (.switchTable "A")) := by
    rintro ⟨name, asks, _⟩
    cases asks
  have account := accounted_iff besideLog (.command (.switchTable "A"))
    (r := { sink := .log (logFile ⟨"/", []⟩) }) rfl works ⟨"now", 0⟩
  exact ⟨works, other, account.2.2.2.2 other⟩

theorem not_accounted_createTable :
    ¬ ∀ (s : Session) (request : Request) (log : Path) (time : String),
      s.store.takes log = true → s.Accounted request (s.logged log time request) := by
  intro all
  have asks : Request.Asks (.createTable "A") (.line "create table named A") := .line (by decide)
  have anew : besideLog.ChoosesAnew (.line "create table named A") :=
    ⟨"A", asks, by decide, by decide, by decide⟩
  exact (not_accounted_of_choosesAnew "now" anew).2
    (all besideLog _ (logFile ⟨"/", []⟩) "now" (by decide))

end Requests

end Session

end Wordsheet
