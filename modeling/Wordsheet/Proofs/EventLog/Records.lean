import Wordsheet.Proofs.EventLog.Recorder
import Wordsheet.Proofs.Json.RoundTrip
import Wordsheet.Proofs.Text.Utf8

/-! # Reading a log back

An event is one line of printable ASCII, whatever its texts hold, and the line is read as the record
of the event if it can be written. So a log that is read as a whole yields the records of the events
that were written to it, each of them once and in the order in which they were written.
-/

namespace Wordsheet

namespace Text

theorem linesFrom_append {line : List Char} (whole : ∀ c ∈ line, endsLine c = false)
    (before rest : List Char) :
    linesFrom before (line ++ '\n' :: rest) = (before.reverse ++ line) :: lines rest := by
  induction line generalizing before with
  | nil =>
      rw [List.nil_append, linesFrom.eq_3 _ _ _ (by simp), if_pos (by decide), List.append_nil,
        lines]
  | cons c line ih =>
      obtain ⟨hc, hline⟩ := List.forall_mem_cons.1 whole
      -- a carriage return would end the line, alone or with the line feed behind it
      have noReturn : c ≠ '\r' := by
        rintro rfl
        cases hc
      rw [List.cons_append, linesFrom.eq_3 _ _ _ (by simp [noReturn]), hc,
        if_neg Bool.false_ne_true, ih hline, List.reverse_cons, List.append_assoc,
        List.singleton_append]

/-- Lines that hold no end of a line, each with a line feed behind it, are the lines of the text. -/
theorem lines_flatMap {given : List (List Char)}
    (whole : ∀ line ∈ given, ∀ c ∈ line, endsLine c = false) :
    lines (given.flatMap (· ++ ['\n'])) = given := by
  induction given with
  | nil => rfl
  | cons line rest ih =>
      obtain ⟨hline, hrest⟩ := List.forall_mem_cons.1 whole
      rw [List.flatMap_cons, List.append_assoc, List.singleton_append, lines,
        linesFrom_append hline, ih hrest]
      rfl

end Text

namespace Event

variable {e : Event}

/-- The record of an event as a log gives it back: its fields in order, its doubles finite. -/
def logged (e : Event) : Json :=
  e.toJson.finite.ordered

/-- The fields of a record are plain ones and the context. -/
theorem exists_fields {P : Json → Prop} (null : P .null) (int : ∀ n, P (.int n))
    (text : ∀ s, P (.text s)) (context : P (.object e.context)) :
    ∃ fields, e.toJson = .object fields ∧ (fields.map (·.1)).Nodup ∧
      ∀ field ∈ fields, P field.2 := by
  refine ⟨_, rfl, by simp, ?_⟩
  simp only [List.forall_mem_cons]
  refine ⟨int _, text _, text _, text _, context, text _, ?_, List.forall_mem_nil _⟩
  cases e.code with
  | none => exact null
  | some code => exact text code

theorem keyed_toJson (keyed : (Json.object e.context).Keyed) : e.toJson.Keyed := by
  obtain ⟨fields, hfields, distinct, all⟩ := exists_fields .null .int .text keyed
  exact hfields ▸ .object distinct all

theorem plain_toJson (plain : (Json.object e.context).Plain) : e.toJson.Plain := by
  obtain ⟨fields, hfields, distinct, all⟩ := exists_fields .null .int .text plain
  exact hfields ▸ .object distinct all

theorem logged_of_plain (plain : (Json.object e.context).Plain) : e.logged = e.toJson.ordered := by
  rw [logged, (plain_toJson plain).finite_eq]

theorem not_endsLine_of_mem_write (keyed : (Json.object e.context).Keyed) {c : Char}
    (h : c ∈ e.toJson.write) : Text.endsLine c = false := by
  have printable := List.all_eq_true.1 (Json.all_write (keyed_toJson keyed)) c h
  simp only [Json.isPlainChar, Bool.and_eq_true, decide_eq_true_eq] at printable
  simp [Text.endsLine]
  omega

theorem recordOn_write (keyed : (Json.object e.context).Keyed) (writable : e.isWritable = true) :
    EventLog.recordOn e.toJson.write = .ok (some e.logged) := by
  rw [EventLog.recordOn, Json.read_write (keyed_toJson keyed) writable]
  rfl

theorem not_isAllBlank_write (e : Event) : Text.isAllBlank e.toJson.write = false := by
  rw [toJson, Json.write_object]
  rfl

end Event

namespace EventLog

theorem decodeLossy_flatMap (events : List Event) :
    Text.Utf8.decodeLossy (events.flatMap Event.bytes) =
      (events.map fun e => e.toJson.write).flatMap (· ++ ['\n']) := by
  have encoded : events.flatMap Event.bytes =
      Text.Utf8.encode ((events.map fun e => e.toJson.write).flatMap (· ++ ['\n'])) := by
    rw [Text.Utf8.encode, List.flatMap_assoc, List.flatMap_map]
    rfl
  rw [encoded, Text.Utf8.decodeLossy_encode]

theorem tailBytes_of_length_le {tail : Int} {log : List UInt8} (h : (log.length : Int) ≤ tail) :
    tailBytes tail log = log := by
  rw [tailBytes]
  exact if_pos (by omega)

theorem filterMapM_recordOn {events : List Event}
    (keyed : ∀ e ∈ events, (Json.object e.context).Keyed)
    (writable : ∀ e ∈ events, e.isWritable = true) :
    (events.map fun e => e.toJson.write).filterMapM recordOn = .ok (events.map Event.logged) := by
  induction events with
  | nil => rfl
  | cons e rest ih =>
      obtain ⟨he, hrest⟩ := List.forall_mem_cons.1 keyed
      obtain ⟨short, hshort⟩ := List.forall_mem_cons.1 writable
      rw [List.map_cons, List.filterMapM_cons, Event.recordOn_write he short, ih hrest hshort]
      rfl

/-- Where the lines of some events that can be written are what is read of a log, their records are
found, in order, and no other. -/
theorem records_of_tailBytes {events : List Event}
    (keyed : ∀ e ∈ events, (Json.object e.context).Keyed)
    (writable : ∀ e ∈ events, e.isWritable = true) {tail : Int} {log : List UInt8}
    (h : tailBytes tail log = events.flatMap Event.bytes) :
    records tail log = .ok (events.map Event.logged) := by
  have whole : ∀ line ∈ events.map (fun e => e.toJson.write), ∀ c ∈ line,
      Text.endsLine c = false := by
    rw [List.forall_mem_map]
    exact fun e he c hc => Event.not_endsLine_of_mem_write (keyed e he) hc
  have kept : ∀ line ∈ events.map (fun e => e.toJson.write), (!Text.isAllBlank line) = true := by
    rw [List.forall_mem_map]
    exact fun e _ => by rw [Event.not_isAllBlank_write]; rfl
  rw [records, h, decodeLossy_flatMap, Text.lines_flatMap whole, List.filter_eq_self.2 kept]
  exact filterMapM_recordOn keyed writable

/-- An empty log that can be written to takes the events that can be written, and holds their
lines. -/
theorem exists_written {store : Store} {log : Path} (works : store.takes log = true)
    (fresh : store.bytesAt log = []) (events : List Event) :
    ∃ after, Recorder.deliverAll (.log log) store events =
        (after, events.filter Event.isWritable) ∧
      after.bytesAt log = (events.filter Event.isWritable).flatMap Event.bytes := by
  obtain ⟨after, sent, hbytes⟩ := Recorder.deliverAll_of_takes works events
  rw [fresh, List.nil_append] at hbytes
  exact ⟨after, sent, hbytes⟩

/-- Of events that are sent to an empty log it takes all but those with a whole number of too many
digits, and the events that it took are read from it as they were written. -/
theorem records_deliverAll {store : Store} {log : Path} (works : store.takes log = true)
    (fresh : store.bytesAt log = []) {events : List Event}
    (plain : ∀ e ∈ events, (Json.object e.context).Plain) :
    ∃ after written, Recorder.deliverAll (.log log) store events = (after, written) ∧
      written = events.filter Event.isWritable ∧
      ∀ tail : Int, (after.bytesAt log).length ≤ tail →
        records tail (after.bytesAt log) = .ok (written.map fun e => e.toJson.ordered) := by
  obtain ⟨after, sent, hbytes⟩ := exists_written works fresh events
  refine ⟨after, _, sent, rfl, fun tail whole => ?_⟩
  rw [hbytes] at whole ⊢
  have plain' : ∀ e ∈ events.filter Event.isWritable, (Json.object e.context).Plain :=
    fun e he => plain e (List.mem_of_mem_filter he)
  rw [records_of_tailBytes (fun e he => (plain' e he).keyed) (fun _ => List.of_mem_filter)
    (tailBytes_of_length_le whole)]
  exact congrArg Except.ok (List.map_congr_left fun e he => Event.logged_of_plain (plain' e he))

theorem records_deliverAll_forged :
    ∃ (store after : Store) (e : Event),
      e.message = "a\u2028b\n\x7b\"level\": \"info\"\x7d\n" ∧
      store.takes (logFile ⟨"/", []⟩) = true ∧ store.bytesAt (logFile ⟨"/", []⟩) = [] ∧
      Recorder.deliverAll (.log (logFile ⟨"/", []⟩)) store [e, e] = (after, [e, e]) ∧
      ∀ tail : Int, (after.bytesAt (logFile ⟨"/", []⟩)).length ≤ tail →
        records tail (after.bytesAt (logFile ⟨"/", []⟩)) =
          .ok [e.toJson.ordered, e.toJson.ordered] := by
  let e : Event :=
    { level := .info, happening := .tableCreated, time := "now"
      message := "a\u2028b\n\x7b\"level\": \"info\"\x7d\n"
      context := [("table\u0085", .list [.text "\"\\😀", .int (-7), .null])] }
  have plain : (Json.object e.context).Plain := by
    refine .object (by decide) (List.forall_mem_singleton.2 (.list ?_))
    simp only [List.forall_mem_cons]
    exact ⟨.text _, .int _, .null, List.forall_mem_nil _⟩
  have works : ((Store.empty []).put ⟨["logs"], none⟩).takes (logFile ⟨"/", []⟩) = true := by
    decide
  have fresh : ((Store.empty []).put ⟨["logs"], none⟩).bytesAt (logFile ⟨"/", []⟩) = [] := by
    decide
  have both : ∀ f : Event, f ∈ [e, e] → (Json.object f.context).Plain :=
    List.forall_mem_cons.2 ⟨plain, List.forall_mem_singleton.2 plain⟩
  obtain ⟨after, written, sent, rfl, read⟩ := records_deliverAll works fresh both
  have all : [e, e].filter Event.isWritable = [e, e] := List.filter_eq_self.2 (by decide)
  rw [all] at sent read
  exact ⟨_, after, e, rfl, works, fresh, sent, read⟩

end EventLog

end Wordsheet
