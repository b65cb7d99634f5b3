import Wordsheet.Proofs.EventLog.Records

/-! # Reading the end of a log

Reading looks at the last bytes of a log, and where that leaves some out, at what stands behind the
first line feed of them. What is read are whole lines, so the records found are those of the last
events. The first line is left out even where it is whole: where the bytes that are read start with
a line, the record of that line is not found.
-/

namespace Wordsheet

namespace Event

variable {e : Event}

/-- The line of an event ends with its only line feed. -/
theorem exists_line (keyed : (Json.object e.context).Keyed) :
    ∃ line, e.bytes = line ++ [0x0a] ∧ 0x0a ∉ line := by
  refine ⟨Text.Utf8.encode e.toJson.write, ?_, fun feed => ?_⟩
  · rw [bytes, line, Text.Utf8.encode, List.flatMap_append]
    rfl
  · obtain ⟨c, hc, hb⟩ := List.mem_flatMap.1 feed
    have other := not_endsLine_of_mem_write keyed hc
    rw [Text.Utf8.encodeChar_of_mem hb (by decide)] at other
    exact absurd other (by decide)

theorem length_bytes_pos (e : Event) : 0 < e.bytes.length := by
  rw [bytes, line, Text.Utf8.encode, List.flatMap_append, List.length_append]
  exact Nat.lt_add_left _ (by decide)

end Event

namespace EventLog

variable {events before rest inside : List Event} {e : Event} {tail : Nat} {store : Store}
  {log : Path}

theorem keyed_written (keyed : ∀ e ∈ events, (Json.object e.context).Keyed) :
    (∀ e ∈ events.filter Event.isWritable, (Json.object e.context).Keyed) ∧
      ∀ e ∈ events.filter Event.isWritable, e.isWritable = true :=
  ⟨fun e he => keyed e (List.mem_of_mem_filter he), fun _ => List.of_mem_filter⟩

/-- There is an empty log that can be written to. -/
theorem exists_fresh :
    ∃ store : Store, store.takes (logFile ⟨"/", []⟩) = true ∧
      store.bytesAt (logFile ⟨"/", []⟩) = [] :=
  ⟨(Store.empty []).put ⟨["logs"], none⟩, by decide, by decide⟩

/-! ## What is behind a cut -/

theorem afterLineFeed_append {line : List UInt8} (h : 0x0a ∉ line) (rest : List UInt8) :
    afterLineFeed (line ++ 0x0a :: rest) = rest := by
  have other : ∀ b ∈ line, (b != 0x0a) = true := by
    intro b hb
    rw [bne_iff_ne]
    rintro rfl
    exact h hb
  rw [afterLineFeed, List.dropWhile_append_of_pos other]
  rfl

/-- The events whose lines start behind a cut, and behind the line that goes over or from it. -/
def behindCut : (cut : Nat) → List Event → List Event
  | _, [] => []
  | cut, e :: rest =>
      if cut < e.bytes.length then rest else behindCut (cut - e.bytes.length) rest

theorem behindCut_suffix (cut : Nat) (events : List Event) : behindCut cut events <:+ events := by
  induction events generalizing cut with
  | nil => exact List.suffix_rfl
  | cons e rest ih =>
      rw [behindCut]
      split
      · exact List.suffix_cons e rest
      · exact (ih _).trans (List.suffix_cons e rest)

/-- Behind the first line feed that follows a cut stand the lines of the events behind the cut. -/
theorem afterLineFeed_drop (keyed : ∀ e ∈ events, (Json.object e.context).Keyed) (cut : Nat) :
    afterLineFeed ((events.flatMap Event.bytes).drop cut) =
      (behindCut cut events).flatMap Event.bytes := by
  induction events generalizing cut with
  | nil => rw [List.flatMap_nil, List.drop_nil]; rfl
  | cons e rest ih =>
      obtain ⟨he, hrest⟩ := List.forall_mem_cons.1 keyed
      obtain ⟨line, hline, free⟩ := Event.exists_line he
      rw [behindCut, List.flatMap_cons, List.drop_append]
      split
      · next within =>
          have short : cut ≤ line.length := by
            rw [hline, List.length_append, List.length_singleton] at within
            omega
          have free' : 0x0a ∉ line.drop cut := fun feed => free (List.mem_of_mem_drop feed)
          rw [Nat.sub_eq_zero_of_le (Nat.le_of_lt within), List.drop_zero, hline,
            List.drop_append_of_le_length short, List.append_assoc]
          exact afterLineFeed_append free' _
      · next beyond =>
          rw [List.drop_eq_nil_of_le (Nat.le_of_not_lt beyond), List.nil_append, ih hrest]

theorem behindCut_append (before rest : List Event) (cut : Nat)
    (h : (before.flatMap Event.bytes).length ≤ cut) :
    behindCut cut (before ++ rest) =
      behindCut (cut - (before.flatMap Event.bytes).length) rest := by
  induction before generalizing cut with
  | nil => rfl
  | cons e before ih =>
      rw [List.flatMap_cons, List.length_append] at h ⊢
      rw [List.cons_append, behindCut, if_neg (by omega), ih _ (by omega), Nat.sub_add_eq]

/-- A cut leaves the events behind those that it lies in. -/
theorem suffix_behindCut (before rest : List Event) {cut : Nat}
    (h : cut < (before.flatMap Event.bytes).length) :
    rest <:+ behindCut cut (before ++ rest) := by
  induction before generalizing cut with
  | nil => exact absurd h (Nat.not_lt_zero cut)
  | cons e before ih =>
      rw [List.flatMap_cons, List.length_append] at h
      rw [List.cons_append, behindCut]
      split
      · exact List.suffix_append before rest
      · exact ih (by omega)

/-! ## What is read -/

/-- The events whose records are found at the end of a log. -/
def readable (tail : Nat) (events : List Event) : List Event :=
  let size := (events.flatMap Event.bytes).length
  if size ≤ tail then events else behindCut (size - tail) events

theorem readable_suffix (tail : Nat) (events : List Event) : readable tail events <:+ events := by
  rw [readable]
  split
  · exact List.suffix_rfl
  · exact behindCut_suffix _ events

/-- Reading finds the records of the readable events. -/
theorem records_readable (keyed : ∀ e ∈ events, (Json.object e.context).Keyed)
    (writable : ∀ e ∈ events, e.isWritable = true) (tail : Nat) :
    records tail (events.flatMap Event.bytes) = .ok ((readable tail events).map Event.logged) := by
  have among : ∀ e ∈ readable tail events, e ∈ events := fun e => (readable_suffix tail events).mem
  refine records_of_tailBytes (fun e he => keyed e (among e he))
    (fun e he => writable e (among e he)) ?_
  rw [readable]
  split
  · next fits => exact tailBytes_of_length_le (by exact_mod_cast fits)
  · next cut =>
      have start : (((events.flatMap Event.bytes).length : Int) - tail).toNat =
          (events.flatMap Event.bytes).length - tail := by omega
      rw [tailBytes]
      rw [start, if_neg (by omega), afterLineFeed_drop keyed]

/-- Events whose lines lie within the bytes that are read, and do not start with the first of them,
are readable. -/
theorem suffix_readable (within : inside <:+ events)
    (short : (inside.flatMap Event.bytes).length < tail) : inside <:+ readable tail events := by
  obtain ⟨before, rfl⟩ := within
  rw [readable]
  split
  · exact List.suffix_append before inside
  · next cut =>
      rw [List.flatMap_append, List.length_append] at cut ⊢
      exact suffix_behindCut before inside (by omega)

/-- Where the bytes that are read start with a line, it is the only whole one that is not read. -/
theorem readable_of_length_eq (more : before ≠ [])
    (exact : ((e :: rest).flatMap Event.bytes).length = tail) :
    readable tail (before ++ e :: rest) = rest := by
  obtain ⟨first, others, rfl⟩ := List.exists_cons_of_ne_nil more
  have size : (((first :: others) ++ e :: rest).flatMap Event.bytes).length =
      ((first :: others).flatMap Event.bytes).length + tail := by
    rw [List.flatMap_append, List.length_append, exact]
  have pos : 0 < ((first :: others).flatMap Event.bytes).length := by
    rw [List.flatMap_cons, List.length_append]
    exact Nat.add_pos_left first.length_bytes_pos _
  rw [readable, size, if_neg (by omega), Nat.add_sub_cancel, behindCut_append _ _ _ (Nat.le_refl _),
    Nat.sub_self, behindCut, if_pos e.length_bytes_pos]

/-! ## What is found -/

def asked (level happening : Option String) (e : Event) : Bool :=
  level.all (· == e.level.text) && happening.all (· == e.happening.text)

theorem field?_logged (e : Event) (key : String) :
    e.logged.field? key = (e.toJson.finite.field? key).map Json.ordered := by
  obtain ⟨fields, hfields, distinct, _⟩ := Event.exists_fields (P := fun _ => True)
    trivial (fun _ => trivial) (fun _ => trivial) trivial
  rw [Event.logged, hfields, Json.finite_object]
  refine Json.field?_ordered ?_ key
  rwa [List.map_map]

theorem hasText_logged (e : Event) (level happening : Option String) :
    (hasText e.logged "level" level && hasText e.logged "event_type" happening) =
      asked level happening e := by
  have hlevel : e.logged.field? "level" = some (.text e.level.text) := field?_logged e _
  have htype : e.logged.field? "event_type" = some (.text e.happening.text) := field?_logged e _
  have same (found wanted : String) : (found == wanted) = (wanted == found) := Bool.beq_comm
  rw [hasText, hasText, hlevel, htype, asked]
  simp only [same]

/-- The events that are asked for among the readable ones are found, newest first. -/
theorem recent_readable (keyed : ∀ e ∈ events, (Json.object e.context).Keyed)
    (writable : ∀ e ∈ events, e.isWritable = true) (tail : Nat)
    (level happening : Option String) (limit : Nat) :
    recent tail level happening limit (events.flatMap Event.bytes) =
      .ok ((((readable tail events).filter (asked level happening)).reverse.take limit).map
        Event.logged) := by
  have wanted : (fun r => hasText r "level" level && hasText r "event_type" happening) ∘
      Event.logged = asked level happening := funext fun e => hasText_logged e level happening
  have positive : ¬ (limit : Int) < 0 := Int.not_lt.2 (Int.natCast_nonneg limit)
  rw [recent, records_readable keyed writable, Except.map, List.filter_map, wanted,
    ← List.map_reverse, takeLimit, if_neg positive, Int.toNat_natCast, List.map_take]

/-- Of events that are sent to an empty log it takes all but those with a whole number of too many
digits. Of the events that it took, the records of the last ones are found, in order, and no other.
They are at least those whose lines are shorter together than what is read. Those among them that
have a level and tell of a happening are listed from the newest on, up to a limit. -/
theorem recent_deliverAll (works : store.takes log = true) (fresh : store.bytesAt log = [])
    (keyed : ∀ e ∈ events, (Json.object e.context).Keyed) :
    ∃ after written, Recorder.deliverAll (.log log) store events = (after, written) ∧
      written = events.filter Event.isWritable ∧
      ∀ tail : Nat, ∃ kept, kept <:+ written ∧
        (∀ inside, inside <:+ written → (inside.flatMap Event.bytes).length < tail →
          inside <:+ kept) ∧
        records tail (after.bytesAt log) = .ok (kept.map Event.logged) ∧
        ∀ (level happening : Option String) (limit : Nat),
          recent tail level happening limit (after.bytesAt log) =
            .ok (((kept.filter (asked level happening)).reverse.take limit).map Event.logged) := by
  obtain ⟨after, sent, hbytes⟩ := exists_written works fresh events
  obtain ⟨keyed, writable⟩ := keyed_written keyed
  refine ⟨after, _, sent, rfl, fun tail => ⟨readable tail _, readable_suffix tail _, ?_, ?_, ?_⟩⟩
  · intro inside within short
    exact suffix_readable within short
  · rw [hbytes, records_readable keyed writable]
  · intro level happening limit
    rw [hbytes, recent_readable keyed writable]

theorem recent_deliverAll_doubles :
    ∃ (store after : Store) (e f : Event),
      e.context = [("result", .float 0.1), ("table", .text "a\u2028\n")] ∧ f.level = .error ∧
      store.takes (logFile ⟨"/", []⟩) = true ∧ store.bytesAt (logFile ⟨"/", []⟩) = [] ∧
      Recorder.deliverAll (.log (logFile ⟨"/", []⟩)) store [e, f] = (after, [e, f]) ∧
      ∀ tail : Nat, ∃ kept, kept <:+ [e, f] ∧ (f.bytes.length < tail → [f] <:+ kept) ∧
        records tail (after.bytesAt (logFile ⟨"/", []⟩)) = .ok (kept.map Event.logged) ∧
        recent tail (some "error") none 1 (after.bytesAt (logFile ⟨"/", []⟩)) =
          .ok (((kept.filter (asked (some "error") none)).reverse.take 1).map Event.logged) := by
  let e : Event :=
    { level := .info, happening := .formulaEvaluated, time := "then"
      context := [("result", .float 0.1), ("table", .text "a\u2028\n")] }
  let f : Event :=
    { level := .error, happening := .formulaFailed, time := "now"
      context := [("result", .float Decimal.undefined)] }
  have keyed : ∀ g ∈ [e, f], (Json.object g.context).Keyed := by
    simp only [List.forall_mem_cons]
    refine ⟨.object (by decide) ?_, .object (by decide) ?_, List.forall_mem_nil _⟩
    · exact List.forall_mem_cons.2 ⟨.float _, List.forall_mem_singleton.2 (.text _)⟩
    · exact List.forall_mem_singleton.2 (.float _)
  obtain ⟨store, works, fresh⟩ := exists_fresh
  obtain ⟨after, written, sent, rfl, read⟩ := recent_deliverAll works fresh keyed
  have all : [e, f].filter Event.isWritable = [e, f] := List.filter_eq_self.2 (by decide)
  rw [all] at sent read
  refine ⟨store, after, e, f, rfl, rfl, works, fresh, sent, fun tail => ?_⟩
  obtain ⟨kept, within, enough, found, listed⟩ := read tail
  refine ⟨kept, within, fun short => ?_, found, listed (some "error") none 1⟩
  refine enough [f] (List.suffix_cons e [f]) ?_
  rwa [List.flatMap_singleton]

/-! ## What is missed -/

/-- Whether every record is found whose line lies within the bytes that are read of a log. -/
def Complete (tail : Nat) (events : List Event) (log : List UInt8) : Prop :=
  ∃ found, records tail log = .ok found ∧
    ∀ inside, inside <:+ events → (inside.flatMap Event.bytes).length ≤ tail →
      inside.map Event.logged <:+ found

/-- Of events that are sent to an empty log it takes all but those with a whole number of too many
digits. Of the events that it took, every record is found whose line lies within the bytes that are
read, unless these bytes start with a line that is not the first of the log. Then the record of that
line is missed and no other. -/
theorem complete_iff (works : store.takes log = true) (fresh : store.bytesAt log = [])
    (keyed : ∀ e ∈ events, (Json.object e.context).Keyed) (tail : Nat) :
    ∃ after written, Recorder.deliverAll (.log log) store events = (after, written) ∧
      written = events.filter Event.isWritable ∧
      (Complete tail written (after.bytesAt log) ↔
        ∀ before e rest, written = before ++ e :: rest → before ≠ [] →
          ((e :: rest).flatMap Event.bytes).length ≠ tail) ∧
      ∀ before e rest, written = before ++ e :: rest → before ≠ [] →
        ((e :: rest).flatMap Event.bytes).length = tail →
        records tail (after.bytesAt log) = .ok (rest.map Event.logged) := by
  obtain ⟨after, sent, hbytes⟩ := exists_written works fresh events
  obtain ⟨keyed, writable⟩ := keyed_written keyed
  have found := records_readable keyed writable tail
  have missed : ∀ before e rest, events.filter Event.isWritable = before ++ e :: rest →
      before ≠ [] → ((e :: rest).flatMap Event.bytes).length = tail →
      records tail (after.bytesAt log) = .ok (rest.map Event.logged) := by
    intro before e rest split more exact
    rw [hbytes, found, split, readable_of_length_eq more exact]
  refine ⟨after, _, sent, rfl, ⟨fun complete before e rest split more exact => ?_, fun apart => ?_⟩,
    missed⟩
  · -- the line at the start lies within the bytes, but its record is missed
    obtain ⟨_, read, complete⟩ := complete
    cases read.symm.trans (missed before e rest split more exact)
    have within := complete (e :: rest) (split ▸ List.suffix_append before _) (Nat.le_of_eq exact)
    have shorter := within.length_le
    rw [List.length_map, List.length_map, List.length_cons] at shorter
    omega
  · refine ⟨_, hbytes ▸ found, fun inside within short => List.IsSuffix.map Event.logged ?_⟩
    rcases Nat.lt_or_eq_of_le short with less | exact
    · exact suffix_readable within less
    · obtain ⟨before, split⟩ := within
      rw [← split]
      cases inside with
      | nil => exact List.nil_suffix
      | cons e rest =>
          cases before with
          | nil =>
              rw [readable, if_pos (by rw [List.nil_append]; exact short)]
              exact List.suffix_rfl
          | cons first more =>
              exact absurd exact (apart (first :: more) e rest split.symm (List.cons_ne_nil _ _))

theorem complete_iff_pair :
    let e : Event := { level := .info, happening := .tableCreated, time := "t" }
    ∃ store : Store, store.takes (logFile ⟨"/", []⟩) = true ∧
      store.bytesAt (logFile ⟨"/", []⟩) = [] ∧
      (∃ after, Recorder.deliverAll (.log (logFile ⟨"/", []⟩)) store [e, e] = (after, [e, e]) ∧
        records e.bytes.length (after.bytesAt (logFile ⟨"/", []⟩)) = .ok []) ∧
      ∃ after, Recorder.deliverAll (.log (logFile ⟨"/", []⟩)) store [e, e] = (after, [e, e]) ∧
        Complete (e.bytes.length + 1) [e, e] (after.bytesAt (logFile ⟨"/", []⟩)) := by
  intro e
  have keyed : ∀ f ∈ [e, e], (Json.object f.context).Keyed :=
    List.forall_mem_cons.2 ⟨.empty, List.forall_mem_singleton.2 .empty⟩
  have all : [e, e].filter Event.isWritable = [e, e] := List.filter_eq_self.2 (by decide)
  obtain ⟨store, works, fresh⟩ := exists_fresh
  refine ⟨store, works, fresh, ?_, ?_⟩
  · obtain ⟨after, _, sent, rfl, _, missed⟩ := complete_iff works fresh keyed e.bytes.length
    rw [all] at sent missed
    refine ⟨after, sent, missed [e] e [] rfl (List.cons_ne_nil _ _) ?_⟩
    rw [List.flatMap_singleton]
  · obtain ⟨after, _, sent, rfl, complete, _⟩ :=
      complete_iff works fresh keyed (e.bytes.length + 1)
    rw [all] at sent complete
    refine ⟨after, sent, complete.2 fun before f rest split more exact => ?_⟩
    -- the only line that is not the first is the last one, which is too short
    obtain ⟨first, others, rfl⟩ := List.exists_cons_of_ne_nil more
    cases others with
    | nil =>
        cases split
        rw [List.flatMap_singleton] at exact
        omega
    | cons second others => simp at split

theorem not_complete_lineStart :
    let e : Event := { level := .info, happening := .tableCreated, time := "t" }
    ∃ store after : Store, store.takes (logFile ⟨"/", []⟩) = true ∧
      store.bytesAt (logFile ⟨"/", []⟩) = [] ∧
      Recorder.deliverAll (.log (logFile ⟨"/", []⟩)) store [e, e] = (after, [e, e]) ∧
      ¬ Complete e.bytes.length [e, e] (after.bytesAt (logFile ⟨"/", []⟩)) := by
  intro e
  have keyed : ∀ f ∈ [e, e], (Json.object f.context).Keyed :=
    List.forall_mem_cons.2 ⟨.empty, List.forall_mem_singleton.2 .empty⟩
  obtain ⟨store, works, fresh⟩ := exists_fresh
  obtain ⟨after, sent, hbytes⟩ := exists_written works fresh [e, e]
  have writable : ∀ f ∈ [e, e], f.isWritable = true := by decide
  rw [List.filter_eq_self.2 writable] at sent hbytes
  refine ⟨store, after, works, fresh, sent, fun complete => ?_⟩
  have whole : ([e].flatMap Event.bytes).length = e.bytes.length := by rw [List.flatMap_singleton]
  have missed : readable e.bytes.length [e, e] = [] :=
    readable_of_length_eq (List.cons_ne_nil e []) whole
  obtain ⟨found, read, complete⟩ := complete
  rw [hbytes, records_readable keyed writable, missed] at read
  cases read
  have within := complete [e] (List.suffix_cons e [e]) (Nat.le_of_eq whole)
  exact absurd within.length_le (by decide)

end EventLog

end Wordsheet
