import Wordsheet.Console.Run
import Wordsheet.Proofs.Files.Store

/-! # Scripts as folds

Running a script is running its commands one after another, each on the desk that the one before it
leaves: up to the first one that is refused, or through all of them.
-/

namespace Wordsheet.Console.Desk

/-! ## The commands of a text -/

/-- Whether numbered lines are the commands of a text: in order, the lines of the text without the
blanks around them and with their places from one on, but for those of which nothing is left or
which then begin with a number sign. -/
structure Commands (text : List Char) (commands : List (Nat × String)) : Prop where
  ascending : commands.Pairwise fun earlier later => earlier.1 < later.1
  mem_iff : ∀ number line, (number, line) ∈ commands ↔
    ∃ index raw, (Text.lines text)[index]? = some raw ∧ number = index + 1 ∧
      line.toList = Text.trim raw ∧ line.toList ≠ [] ∧ line.toList.head? ≠ some '#'

/-- The command in a line with its number, unless the line is blank or a comment. -/
def command? : List Char × Nat → Option (Nat × String)
  | (raw, number) =>
      match Text.trim raw with
      | [] | '#' :: _ => none
      | line => some (number, String.ofList line)

theorem command?_eq_some {raw : List Char} {place number : Nat} {line : String} :
    command? (raw, place) = some (number, line) ↔
      number = place ∧ line.toList = Text.trim raw ∧ line.toList ≠ [] ∧
        line.toList.head? ≠ some '#' := by
  rw [command?]
  split
  case h_1 blank =>
    rw [blank]
    exact ⟨fun h => (nomatch h), fun ⟨_, h, nonempty, _⟩ => absurd h nonempty⟩
  case h_2 rest comment =>
    rw [comment]
    exact ⟨fun h => (nomatch h), fun ⟨_, h, _, unmarked⟩ => absurd (by rw [h]; rfl) unmarked⟩
  case h_3 nonempty unmarked =>
    constructor
    · intro h
      cases h
      rw [String.toList_ofList]
      refine ⟨rfl, rfl, nonempty, fun h => ?_⟩
      obtain ⟨rest, h⟩ := List.head?_eq_some_iff.1 h
      exact unmarked rest h
    · rintro ⟨rfl, h, _⟩
      rw [← h, String.ofList_toList]

theorem scriptLines_eq (text : List Char) :
    scriptLines text = ((Text.lines text).zipIdx 1).filterMap command? := rfl

theorem commands_scriptLines (text : List Char) : Commands text (scriptLines text) where
  ascending := by
    have places : ((Text.lines text).zipIdx 1).Pairwise fun earlier later =>
        earlier.2 < later.2 := by
      rw [← List.pairwise_map, List.zipIdx_map_snd]
      exact List.pairwise_lt_range'
    rw [scriptLines_eq, List.pairwise_filterMap]
    refine places.imp fun {earlier later} h a ha b hb => ?_
    obtain ⟨ha, _⟩ := command?_eq_some.1 ha
    obtain ⟨hb, _⟩ := command?_eq_some.1 hb
    rwa [ha, hb]
  mem_iff number line := by
    rw [scriptLines_eq, List.mem_filterMap]
    constructor
    · rintro ⟨⟨raw, place⟩, hplace, h⟩
      obtain ⟨positive, hraw⟩ := List.mk_mem_zipIdx_iff_le_and_getElem?_sub.1 hplace
      obtain ⟨rfl, hline⟩ := command?_eq_some.1 h
      exact ⟨number - 1, raw, hraw, (Nat.sub_add_cancel positive).symm, hline⟩
    · rintro ⟨index, raw, hraw, rfl, h⟩
      refine ⟨(raw, index + 1), ?_, command?_eq_some.2 ⟨rfl, h⟩⟩
      exact List.mk_mem_zipIdx_iff_le_and_getElem?_sub.2 ⟨Nat.le_add_left .., hraw⟩

/-! ## Turns -/

def Turn.answers (t : Turn) : Bool :=
  match t.reply with
  | .ok _ => true
  | .error _ => false

def Turn.succeeds (t : Turn) : Bool :=
  match t.reply with
  | .ok reply => reply.ok
  | .error _ => false

variable (now : Nat → Moment) (d : Desk) (commands : List (Nat × String))

/-- The turns of numbered lines, each on the desk that the ones before it leave. -/
def turns (d : Desk) : List (Nat × String) → List Turn
  | [] => []
  | (number, line) :: rest =>
      d.turn (now number) line :: turns (d.turn (now number) line).desk rest

def after : Desk :=
  commands.foldl (fun desk command => (desk.turn (now command.1) command.2).desk) d

def echoed : List Printed :=
  (d.turns now commands).flatMap Turn.printed

/-- The lines that are run: all, or those up to the first that does not succeed. -/
def executed (keepGoing : Bool) : List (Nat × String) :=
  if keepGoing then commands
  else commands.take ((d.turns now commands).findIdx (fun t => !t.succeeds) + 1)

/-- The first line that does not succeed. -/
def firstFailure? : Option (Nat × String) :=
  ((commands.zip (d.turns now commands)).find? fun (_, t) => !t.succeeds).map Prod.fst

def failures : Nat :=
  (d.turns now commands).countP fun t => !t.succeeds

/-- What is said at the end of a script about lines that do not succeed, if there are any: how many
there are, or the first one with its number. -/
def complaint? (file : String) (keepGoing : Bool) : Option String :=
  if keepGoing then
    match d.failures now commands with
    | 0 => none
    | count => some s!"{count} command(s) failed"
  else
    (d.firstFailure? now commands).map fun (number, line) =>
      s!"{file}:{number}: command failed: {line}"

def report (file : String) (keepGoing : Bool) : List Printed :=
  (d.complaint? now commands file keepGoing).toList.map fun message =>
    printLine .errors s!"Error: {message}"

/-! ## One command and the others -/

section Step

variable {now d} {number : Nat} {line : String} {rest : List (Nat × String)}

theorem executed_true : d.executed now rest true = rest := rfl

theorem executed_cons :
    d.executed now ((number, line) :: rest) false =
      (number, line) :: if (d.turn (now number) line).succeeds then
        (d.turn (now number) line).desk.executed now rest false else [] := by
  cases h : (d.turn (now number) line).succeeds <;> simp [executed, turns, List.findIdx_cons, h]

theorem firstFailure?_cons :
    d.firstFailure? now ((number, line) :: rest) =
      if (d.turn (now number) line).succeeds then
        (d.turn (now number) line).desk.firstFailure? now rest
      else some (number, line) := by
  cases h : (d.turn (now number) line).succeeds <;> simp [firstFailure?, turns, h]

theorem failures_cons :
    d.failures now ((number, line) :: rest) =
      (d.turn (now number) line).desk.failures now rest +
        if (d.turn (now number) line).succeeds then 0 else 1 := by
  cases h : (d.turn (now number) line).succeeds <;> simp [failures, turns, h]

theorem echoed_cons :
    d.echoed now ((number, line) :: rest) =
      (d.turn (now number) line).printed ++ (d.turn (now number) line).desk.echoed now rest := rfl

end Step

/-! ## Runs -/

section Runs

variable {now d commands}

theorem turns_take (count : Nat) :
    d.turns now (commands.take count) = (d.turns now commands).take count := by
  induction commands generalizing d count with
  | nil => rw [List.take_nil, turns, List.take_nil]
  | cons command rest ih =>
      cases count with
      | zero => rfl
      | succ count => exact congrArg (_ :: ·) (ih count)

theorem mem_turns_of_executed {keepGoing : Bool} {t : Turn}
    (h : t ∈ d.turns now (d.executed now commands keepGoing)) : t ∈ d.turns now commands := by
  cases keepGoing with
  | true => exact h
  | false => exact List.mem_of_mem_take (turns_take _ ▸ h)

theorem reply_of_answers {t : Turn} (h : t.answers = true) :
    ∃ reply, t.reply = .ok reply ∧ t.succeeds = reply.ok := by
  rw [Turn.answers] at h
  rw [Turn.succeeds]
  cases hreply : t.reply with
  | error cause =>
      rw [hreply] at h
      cases h
  | ok reply => exact ⟨reply, rfl, rfl⟩

/-- A script that goes on runs all its commands and counts the refused ones. -/
theorem runScript_true (answered : ∀ t ∈ d.turns now commands, t.answers = true) (refused : Nat) :
    d.runScript now true refused commands =
      ⟨d.after now commands, d.echoed now commands,
        .finished (refused + d.failures now commands)⟩ := by
  induction commands generalizing d refused with
  | nil => rfl
  | cons command rest ih =>
      obtain ⟨number, line⟩ := command
      obtain ⟨hfirst, hrest⟩ := List.forall_mem_cons.1 answered
      obtain ⟨reply, hreply, hok⟩ := reply_of_answers hfirst
      rw [runScript, failures_cons, echoed_cons, hok]
      simp only [hreply, Bool.not_true, Bool.and_false, Bool.false_eq_true, if_false, ih hrest]
      have counted : (if reply.ok then refused else refused + 1) +
          (d.turn (now number) line).desk.failures now rest =
            refused + ((d.turn (now number) line).desk.failures now rest +
              if reply.ok then 0 else 1) := by
        cases reply.ok with
        | true => rw [if_pos rfl, if_pos rfl, Nat.add_zero]
        | false => simp; omega
      rw [counted]
      rfl

/-- A script that does not go on stops at the first refused command. -/
theorem runScript_false
    (answered : ∀ t ∈ d.turns now (d.executed now commands false), t.answers = true) :
    d.runScript now false 0 commands =
      ⟨d.after now (d.executed now commands false),
        d.echoed now (d.executed now commands false),
        match d.firstFailure? now commands with
        | none => .finished 0
        | some (number, line) => .stopped number line⟩ := by
  induction commands generalizing d with
  | nil => rfl
  | cons command rest ih =>
      obtain ⟨number, line⟩ := command
      rw [executed_cons] at answered ⊢
      obtain ⟨hfirst, hrest⟩ := List.forall_mem_cons.1 answered
      obtain ⟨reply, hreply, hok⟩ := reply_of_answers hfirst
      rw [hok] at hrest
      rw [runScript, firstFailure?_cons, echoed_cons, hok]
      cases hs : reply.ok with
      | true =>
          rw [hs] at hrest
          simp only [hreply, hs, Bool.not_true, Bool.false_and, Bool.false_eq_true, if_false,
            if_true, ih hrest]
          rfl
      | false =>
          -- a refused line is the last one on both sides
          simp only [hreply, hs, Bool.not_false, Bool.and_true, Bool.false_eq_true, if_false,
            if_true]
          simp [after, echoed, turns]

/-- What is printed up to the first refused command is printed as well if the script goes on. -/
theorem echoed_prefix_printed (refused : Nat) :
    d.echoed now (d.executed now commands false) <+:
      (d.runScript now true refused commands).printed := by
  induction commands generalizing d refused with
  | nil => exact List.prefix_refl _
  | cons command rest ih =>
      obtain ⟨number, line⟩ := command
      rw [executed_cons, echoed_cons, runScript]
      cases hreply : (d.turn (now number) line).reply with
      | error cause =>
          -- the run that goes on ends here as well
          have fails : (d.turn (now number) line).succeeds = false := by
            rw [Turn.succeeds, hreply]
          simp only [fails, Bool.false_eq_true, if_false]
          exact (List.append_nil _).symm ▸ List.prefix_refl _
      | ok reply =>
          have hok : (d.turn (now number) line).succeeds = reply.ok := by
            rw [Turn.succeeds, hreply]
          simp only [hok, Bool.not_true, Bool.and_false, Bool.false_eq_true, if_false]
          refine (List.prefix_append_right_inj _).2 ?_
          cases reply.ok with
          | true => exact ih _
          | false => exact List.nil_prefix

theorem firstFailure?_eq_none_iff :
    d.firstFailure? now commands = none ↔
      ∀ t ∈ d.turns now (d.executed now commands false), t.succeeds = true := by
  induction commands generalizing d with
  | nil => exact ⟨fun _ _ h => absurd h List.not_mem_nil, fun _ => rfl⟩
  | cons command rest ih =>
      obtain ⟨number, line⟩ := command
      rw [firstFailure?_cons, executed_cons, turns, List.forall_mem_cons]
      cases (d.turn (now number) line).succeeds with
      | true => simp [ih]
      | false => simp

theorem failures_eq_zero_iff :
    d.failures now commands = 0 ↔ ∀ t ∈ d.turns now commands, t.succeeds = true := by
  simp [failures, List.countP_eq_zero]

/-- There is nothing to say at the end of a script if every line that is run succeeds. -/
theorem complaint?_eq_none_iff {file : String} {keepGoing : Bool} :
    d.complaint? now commands file keepGoing = none ↔
      ∀ t ∈ d.turns now (d.executed now commands keepGoing), t.succeeds = true := by
  cases keepGoing with
  | true =>
      rw [executed_true, ← failures_eq_zero_iff, complaint?]
      cases d.failures now commands <;> simp
  | false => exact Option.map_eq_none_iff.trans firstFailure?_eq_none_iff

end Runs

/-! ## Script files -/

/-- Whether a transcript, and the desk that is left, are those of the commands that are run, in
order and on a given desk: up to the first that does not succeed, or all if the script goes on. -/
structure Ran (file : String) (keepGoing : Bool) (left : Desk) (t : Transcript) : Prop where
  desk : left = d.after now (d.executed now commands keepGoing)
  store : t.store = left.session.store
  printed : t.printed =
    d.echoed now (d.executed now commands keepGoing) ++ d.report now commands file keepGoing
  status : t.status = 0 ↔
    ∀ turn ∈ d.turns now (d.executed now commands keepGoing), turn.succeeds = true
  failure : t.failure = none

section Files

variable {store : Store} {project : Option String} {desk : Desk} {file : String} {text : List Char}

theorem runScriptFile_eq (ready : Desk.setUp store (project.map Path.ofText) = .ok desk)
    (readable : desk.session.store.readText (Path.ofText file) = .ok text) (now : Nat → Moment)
    (keepGoing : Bool) :
    runScriptFile store now file project keepGoing =
      (desk.runScript now keepGoing 0 (scriptLines text)).transcript file := by
  rw [runScriptFile, atDesk, ready]
  simp only [readable]

theorem ScriptRun.printed_transcript (file : String) (r : ScriptRun) :
    r.printed <+: (r.transcript file).printed := by
  rw [ScriptRun.transcript]
  split
  · exact List.prefix_refl _
  · exact List.prefix_append ..
  · exact List.prefix_append ..
  · exact List.prefix_refl _

variable {now : Nat → Moment} {keepGoing : Bool} {commands : List (Nat × String)}

theorem transcript_runScript (file : String)
    (answered : ∀ t ∈ desk.turns now (desk.executed now commands keepGoing), t.answers = true) :
    let left := desk.after now (desk.executed now commands keepGoing)
    let echoed := desk.echoed now (desk.executed now commands keepGoing)
    (desk.runScript now keepGoing 0 commands).desk = left ∧
      (desk.runScript now keepGoing 0 commands).transcript file =
        match desk.complaint? now commands file keepGoing with
        | none => finished left.session.store echoed
        | some message => refused left.session.store echoed message := by
  cases keepGoing with
  | true =>
      rw [executed_true] at answered ⊢
      rw [runScript_true answered, Nat.zero_add, complaint?]
      cases desk.failures now commands <;> exact ⟨rfl, rfl⟩
  | false =>
      rw [runScript_false answered, complaint?]
      cases desk.firstFailure? now commands <;> exact ⟨rfl, rfl⟩

theorem ran_runScript
    (answered : ∀ t ∈ desk.turns now (desk.executed now commands keepGoing), t.answers = true) :
    Ran now desk commands file keepGoing (desk.runScript now keepGoing 0 commands).desk
      ((desk.runScript now keepGoing 0 commands).transcript file) := by
  obtain ⟨left, told⟩ := transcript_runScript file answered
  rw [left, told]
  cases said : desk.complaint? now commands file keepGoing with
  | none =>
      have all := complaint?_eq_none_iff.1 said
      refine ⟨rfl, rfl, ?_, ⟨fun _ => all, fun _ => rfl⟩, rfl⟩
      rw [report, said]
      exact (List.append_nil _).symm
  | some message =>
      have failing := mt complaint?_eq_none_iff.2 (said ▸ Option.some_ne_none message)
      refine ⟨rfl, rfl, ?_, ⟨fun h => (nomatch h), fun all => absurd all failing⟩, rfl⟩
      rw [report, said]
      rfl

/-- A script is run as its commands one after another: on the desk for the project, up to the first
refused one, whose number is told, or all of them, the refused ones being counted. The exit status
is zero just if none was refused, and a script that goes on first prints all that one that does not
go on prints before it tells of the refused command. -/
theorem runScriptFile_folds (ready : Desk.setUp store (project.map Path.ofText) = .ok desk)
    (readable : desk.session.store.readText (Path.ofText file) = .ok text) (now : Nat → Moment) :
    Commands text (scriptLines text) ∧
      (∀ keepGoing,
        (∀ t ∈ desk.turns now (desk.executed now (scriptLines text) keepGoing), t.answers = true) →
          Ran now desk (scriptLines text) file keepGoing
            (desk.runScript now keepGoing 0 (scriptLines text)).desk
            (runScriptFile store now file project keepGoing)) ∧
      desk.echoed now (desk.executed now (scriptLines text) false) <+:
        (runScriptFile store now file project true).printed := by
  refine ⟨commands_scriptLines text, fun keepGoing answered => ?_, ?_⟩
  · rw [runScriptFile_eq ready readable]
    exact ran_runScript answered
  · rw [runScriptFile_eq ready readable]
    exact (echoed_prefix_printed 0).trans (ScriptRun.printed_transcript file _)

theorem runScriptFile_folds_nonsense :
    let text := "# note\n\n  nonsense\t\nhelp\n".toList
    let store := (Store.empty []).put ⟨["s"], some (Text.Utf8.encode text)⟩
    let desk : Desk := ⟨Session.start .defaults .standard ⟨"/", []⟩ store, {}⟩
    let now : Nat → Moment := fun number => ⟨"now", number.toFloat⟩
    Desk.setUp store none = .ok desk ∧
      desk.session.store.readText (Path.ofText "s") = .ok text ∧
      scriptLines text = [(3, "nonsense"), (4, "help")] ∧
      Commands text (scriptLines text) ∧
      (∀ keepGoing, Ran now desk (scriptLines text) "s" keepGoing
        (desk.runScript now keepGoing 0 (scriptLines text)).desk
        (runScriptFile store now "s" none keepGoing)) ∧
      desk.echoed now (desk.executed now (scriptLines text) false) <+:
        (runScriptFile store now "s" none true).printed := by
  intro text store desk now
  have ready : Desk.setUp store none = .ok desk := rfl
  have stored : store.read (Path.ofText "s") = .ok (Text.Utf8.encode text) := rfl
  have readable : desk.session.store.readText (Path.ofText "s") = .ok text :=
    Store.readText_of_read stored
  have script : scriptLines text = [(3, "nonsense"), (4, "help")] := by decide
  have unread : Command.parse? "nonsense" = none := by decide
  have asked : Command.parse? "help" = some (.help none) := by decide
  have answered : ∀ t ∈ desk.turns now (scriptLines text), t.answers = true := by
    rw [script]
    refine List.forall_mem_cons.2 ⟨?_, List.forall_mem_singleton.2 ?_⟩
    · rw [Turn.answers, turn, Session.runLine, unread]
    · rw [Turn.answers, turn, Session.runLine, asked]
      rfl
  obtain ⟨commands, ran, printed⟩ :=
    @runScriptFile_folds store none desk "s" text ready readable now
  exact ⟨ready, readable, script, commands,
    fun keepGoing => ran keepGoing fun t h => answered t (mem_turns_of_executed h), printed⟩

end Files

end Wordsheet.Console.Desk
