import Wordsheet.EventLog.Recorder
import Wordsheet.Proofs.Files.Store

/-! # What a recorder adds to its log

Bytes that are added to a file stand behind those that were there. So a log holds the lines of the
events that it took, one behind the other, and a notice adds one line or none. A log that can be
written to takes every event but those with a whole number of too many digits, which change nothing.
-/

namespace Wordsheet

namespace Store

def bytesAt (s : Store) (file : Path) : List UInt8 :=
  (s.read file).toOption.getD []

def takes (s : Store) (file : Path) : Bool :=
  (s.write file []).isOk

variable {s after : Store} {file : Path}

theorem takes_iff (s : Store) (file : Path) :
    s.takes file = true ↔ ∃ after, s.write file [] = .ok after := by
  rw [takes]
  cases s.write file [] with
  | ok after => exact ⟨fun _ => ⟨after, rfl⟩, fun _ => rfl⟩
  | error cause => exact ⟨nofun, nofun⟩

theorem takes_of_read {bytes : List UInt8} (h : s.read file = .ok bytes) : s.takes file = true := by
  rw [takes_iff, write]
  rw [read] at h
  cases hp : s.place file with
  | error cause =>
      rw [hp] at h
      cases h
  | ok place =>
      simp only [hp, bind, Except.bind] at h ⊢
      split at h
      · cases h
      · next free => exact ⟨_, if_neg free⟩

/-- Adding bytes to a file is writing it anew with these behind the old ones. -/
theorem append_eq_write (s : Store) (file : Path) (bytes : List UInt8) :
    s.append file bytes = s.write file (s.bytesAt file ++ bytes) := by
  rw [append, write, bytesAt, read]
  cases s.place file with
  | error cause => rfl
  | ok place =>
      simp only [bind, Except.bind]
      cases hf : s.isFolderAt place with
      | true => rfl
      | false =>
          rcases he : s.entryAt? place with _ | ⟨place, _ | bytes⟩ <;> rfl

theorem append_of_takes (takes : s.takes file = true) (bytes : List UInt8) :
    ∃ after, s.append file bytes = .ok after ∧ after.takes file = true ∧
      after.bytesAt file = s.bytesAt file ++ bytes := by
  obtain ⟨_, writes⟩ := (takes_iff s file).1 takes
  obtain ⟨after, h⟩ := exists_write writes (s.bytesAt file ++ bytes)
  have found := (read_write h).1
  refine ⟨after, (append_eq_write ..).trans h, takes_of_read found, ?_⟩
  rw [bytesAt, found]
  rfl

theorem append_of_not_takes (free : s.takes file = false) (bytes : List UInt8) :
    ∃ cause, s.append file bytes = .error cause := by
  rw [append_eq_write]
  cases h : s.write file (s.bytesAt file ++ bytes) with
  | error cause => exact ⟨cause, rfl⟩
  | ok after => exact nomatch free.symm.trans ((takes_iff s file).2 (exists_write h []))

end Store

namespace Json

mutual

theorem isWritable_clip : ∀ v : Json, v.clip.isWritable = v.isWritable
  | .null | .bool _ | .int _ | .float _ | .text _ => rfl
  | .list items => areWritable_clipItems items
  | .object fields => areFieldsWritable_clipFields fields

theorem areWritable_clipItems : ∀ items, areWritable (clipItems items) = areWritable items
  | [] => rfl
  | item :: rest => by
      rw [clipItems, areWritable, areWritable, isWritable_clip item, areWritable_clipItems rest]

theorem areFieldsWritable_clipFields :
    ∀ fields, areFieldsWritable (clipFields fields) = areFieldsWritable fields
  | [] => rfl
  | (key, value) :: rest => by
      rw [clipFields, areFieldsWritable, areFieldsWritable, isWritable_clip value,
        areFieldsWritable_clipFields rest]

end

end Json

def Event.clipped (e : Event) : Event :=
  { e with context := Json.clipFields e.context }

/-- An event of a notice can be written if the context of the notice can. -/
theorem Notice.isWritable_clipped_at (n : Notice) (time : String) :
    (n.at time).clipped.isWritable = (Json.object n.context).isWritable := by
  have code : ((n.code.map Json.text).getD .null).isWritable = true := by
    cases n.code <;> rfl
  have version : Decimal.isSpellable 1 = true := by decide
  simp only [Event.isWritable, Event.toJson, Event.clipped, Notice.at, Json.isWritable,
    Json.areFieldsWritable, Json.areFieldsWritable_clipFields, code, version, Bool.true_and,
    Bool.and_true]

namespace Recorder

variable {r : Recorder} {store : Store} {file : Path}

def taken (store : Store) (file : Path) (time : String) (n : Option Notice) : List Event :=
  if store.takes file then
    (n.toList.map fun n => (n.at time).clipped).filter Event.isWritable
  else []

theorem length_taken_le_one (store : Store) (file : Path) (time : String) (n : Option Notice) :
    (taken store file time n).length ≤ 1 := by
  rw [taken]
  split
  · refine Nat.le_trans (List.length_filter_le ..) ?_
    cases n <;> simp
  · exact Nat.zero_le 1

theorem deliver_of_takes {e : Event} (takes : store.takes file = true)
    (writable : e.isWritable = true) :
    ∃ after, deliver (.log file) store e = .ok after ∧ after.takes file = true ∧
      after.bytesAt file = store.bytesAt file ++ e.bytes := by
  obtain ⟨after, h, more⟩ := Store.append_of_takes takes e.bytes
  exact ⟨after, (if_pos writable).trans (congrArg (Except.mapError _) h), more⟩

theorem deliver_of_not_isWritable {e : Event} (long : e.isWritable = false) (store : Store)
    (file : Path) :
    ∃ reason, deliver (.log file) store e = .error reason :=
  ⟨_, if_neg (Bool.not_eq_true _ ▸ long)⟩

theorem deliver_of_not_takes (free : store.takes file = false) (e : Event) :
    ∃ reason, deliver (.log file) store e = .error reason := by
  cases writable : e.isWritable with
  | false => exact deliver_of_not_isWritable writable store file
  | true =>
      obtain ⟨cause, h⟩ := Store.append_of_not_takes free e.bytes
      exact ⟨cause.describe, (if_pos writable).trans (congrArg (Except.mapError _) h)⟩

/-! ## Events one by one -/

/-- The store after some events were sent to a sink one by one, and the events that it took. One
that it refuses leaves the store as it is. -/
def deliverAll (sink : Sink) (store : Store) : List Event → Store × List Event
  | [] => (store, [])
  | e :: rest =>
      match deliver sink store e with
      | .ok next =>
          let (after, written) := deliverAll sink next rest
          (after, e :: written)
      | .error _ => deliverAll sink store rest

theorem deliverAll_cons_of_ok {sink : Sink} {next : Store} {e : Event}
    (h : deliver sink store e = .ok next) (rest : List Event) :
    deliverAll sink store (e :: rest) =
      ((deliverAll sink next rest).1, e :: (deliverAll sink next rest).2) := by
  rw [deliverAll, h]

theorem deliverAll_cons_of_error {sink : Sink} {reason : String} {e : Event}
    (h : deliver sink store e = .error reason) (rest : List Event) :
    deliverAll sink store (e :: rest) = deliverAll sink store rest := by
  rw [deliverAll, h]

/-- Of events that go to a log one by one, it takes those that can be written, and they stand in it
one behind the other. -/
theorem deliverAll_of_takes (takes : store.takes file = true) (events : List Event) :
    ∃ after, deliverAll (.log file) store events = (after, events.filter Event.isWritable) ∧
      after.bytesAt file =
        store.bytesAt file ++ (events.filter Event.isWritable).flatMap Event.bytes := by
  induction events generalizing store with
  | nil => exact ⟨store, rfl, (List.append_nil _).symm⟩
  | cons e rest ih =>
      cases writable : e.isWritable with
      | true =>
          obtain ⟨next, delivered, further, hnext⟩ := deliver_of_takes takes writable
          obtain ⟨after, hafter, hbytes⟩ := ih further
          rw [deliverAll_cons_of_ok delivered, hafter, List.filter_cons_of_pos writable]
          exact ⟨after, rfl, by rw [hbytes, hnext, List.flatMap_cons, List.append_assoc]⟩
      | false =>
          obtain ⟨reason, refused⟩ := deliver_of_not_isWritable writable store file
          rw [deliverAll_cons_of_error refused, List.filter_cons_of_neg (by simp [writable])]
          exact ih takes

/-! ## Notices -/

theorem store_record (r : Recorder) (store : Store) (now : Float) (e : Event) :
    (r.record store now e).2.1 =
      match deliver r.sink store e.clipped with
      | .ok after => after
      | .error _ => store := by
  rw [record]
  change _ = match deliver r.sink store { e with context := Json.clipFields e.context } with
    | .ok after => after
    | .error _ => store
  cases deliver r.sink store { e with context := Json.clipFields e.context } <;> rfl

/-- Behind what stood in a log there is what it takes for a notice, and nothing else. -/
theorem bytesAt_note (sink : r.sink = .log file) (store : Store) (now : Moment)
    (n : Option Notice) :
    (r.note store now n).2.1.bytesAt file =
      store.bytesAt file ++ (taken store file now.text n).flatMap Event.bytes := by
  cases n with
  | none => simp [note, taken]
  | some n =>
      rw [note, store_record, sink, taken]
      cases takes : store.takes file with
      | true =>
          cases writable : (n.at now.text).clipped.isWritable with
          | true =>
              obtain ⟨after, delivered, _, hbytes⟩ := deliver_of_takes takes writable
              rw [delivered, hbytes]
              simp [writable]
          | false =>
              obtain ⟨reason, refused⟩ := deliver_of_not_isWritable writable store file
              rw [refused]
              simp [writable]
      | false =>
          obtain ⟨reason, refused⟩ := deliver_of_not_takes takes (n.at now.text).clipped
          rw [refused]
          simp

end Recorder

end Wordsheet
