import Mathlib.Data.List.Nodup
import Wordsheet.Proofs.Csv.Field

/-! # Reading what is written

A frame that is written and read again has the same records, with an empty text for every missing
entry. Its names come back with each double quote doubled, because the heading is read without
undoing that; names without double quotes come back as they were.
-/

namespace Wordsheet.Csv

open Text

/-! ## Lines -/

def writtenFields (fields : List String) : List UInt8 :=
  joinFields (fields.map fun field => writeField (Utf8.encode field.toList))

theorem writeLine_eq (fields : List String) :
    writeLine fields = writtenFields fields ++ [lineFeed] := rfl

theorem writtenFields_singleton (field : String) :
    writtenFields [field] = writeField (Utf8.encode field.toList) := rfl

theorem writtenFields_cons_cons (field next : String) (rest : List String) :
    writtenFields (field :: next :: rest) =
      writeField (Utf8.encode field.toList) ++ comma :: writtenFields (next :: rest) := rfl

theorem insideAfter?_writtenFields (fields : List String) :
    insideAfter? false (writtenFields fields) = some false := by
  induction fields with
  | nil => rfl
  | cons field rest ih =>
      cases rest with
      | nil => exact insideAfter?_writeField _
      | cons next rest =>
          have hcomma : insideAfter? false (comma :: writtenFields (next :: rest)) =
              insideAfter? false (writtenFields (next :: rest)) := rfl
          rw [writtenFields_cons_cons, insideAfter?_append (insideAfter?_writeField _), hcomma, ih]

theorem countLineFeeds_writeLine (fields : List String) (more : List UInt8) :
    countLineFeeds false (writeLine fields ++ more) = countLineFeeds false more + 1 := by
  rw [writeLine_eq, List.append_assoc, countLineFeeds_append (insideAfter?_writtenFields fields)]
  rfl

theorem splitHeading_writeLine (fields : List String) (more : List UInt8) :
    splitHeading false (writeLine fields ++ more) = (writtenFields fields, more) := by
  have hend : splitHeading false ([lineFeed] ++ more) = ([], more) := rfl
  rw [writeLine_eq, List.append_assoc, splitHeading_append (insideAfter?_writtenFields fields),
    hend, List.append_nil]

/-! ## Records -/

theorem readRecord_of_line {bytes field rest : List UInt8} {first : Option String}
    (hcut : cut bytes = ⟨field, .line, rest⟩) (hentry : entry field = .ok first) :
    readRecord 1 bytes = .ok ([first], rest) := by
  rw [readRecord, hcut]
  simp only [hentry]
  rfl

theorem readRecord_of_comma {width : Nat} {bytes field rest more : List UInt8}
    {first : Option String} {entries : List (Option String)} (wide : width ≠ 0)
    (hcut : cut bytes = ⟨field, .comma, rest⟩) (hentry : entry field = .ok first)
    (hrest : readRecord width rest = .ok (entries, more)) :
    readRecord (width + 1) bytes = .ok (first :: entries, more) := by
  rw [readRecord, hcut]
  simp only [hentry, bind, Except.bind, wide, decide_false, Bool.false_and, Bool.not_false,
    decide_true, Bool.and_self, ↓reduceIte, hrest]
  rfl

/-- A line of fields is read as a record of just these entries. -/
theorem readRecord_writeLine {fields : List String} (nonempty : fields ≠ [])
    (more : List UInt8) :
    readRecord fields.length (writeLine fields ++ more) = .ok (fields.map some, more) := by
  -- every field but the last ends at a comma, and the last one at the line feed
  induction fields with
  | nil => exact absurd rfl nonempty
  | cons field rest ih =>
      cases rest with
      | nil =>
          rw [writeLine_eq, writtenFields_singleton, List.append_assoc, List.singleton_append]
          exact readRecord_of_line
            (cut_writeField _ fun quotesCount => cutFrom_lineFeed quotesCount more)
            (entry_writeField field)
      | cons next rest =>
          have hline : writeLine (field :: next :: rest) ++ more =
              writeField (Utf8.encode field.toList) ++
                comma :: (writeLine (next :: rest) ++ more) := by
            simp [writeLine_eq, writtenFields_cons_cons]
          rw [hline]
          exact readRecord_of_comma (Nat.succ_ne_zero rest.length)
            (cut_writeField _ fun quotesCount => cutFrom_comma quotesCount _)
            (entry_writeField field) (ih (List.cons_ne_nil _ _))

theorem readRecords_of_readRecord {width : Nat} {bytes rest : List UInt8}
    {record : List (Option String)} (nonempty : bytes ≠ [])
    (h : readRecord width bytes = .ok (record, rest)) :
    readRecords width bytes = (readRecords width rest).map (record :: ·) := by
  obtain ⟨b, bytes, rfl⟩ := List.exists_cons_of_ne_nil nonempty
  rw [readRecords]
  split
  · next cause hr =>
      rw [h] at hr
      cases hr
  · next found after hr =>
      rw [h] at hr
      cases hr
      rfl

theorem writeLine_ne_nil (fields : List String) : writeLine fields ≠ [] :=
  List.append_ne_nil_of_right_ne_nil _ (List.cons_ne_nil _ _)

theorem readRecords_lines {width : Nat} (wide : width ≠ 0) {records : List (List String)}
    (even : ∀ record ∈ records, record.length = width) :
    readRecords width (records.flatMap writeLine) = .ok (records.map (·.map some)) := by
  induction records with
  | nil => rw [List.flatMap_nil, readRecords, List.map_nil]
  | cons record rest ih =>
      obtain ⟨hlen, even⟩ := List.forall_mem_cons.1 even
      have nonempty : record ≠ [] := by
        rintro rfl
        exact wide hlen.symm
      have hread := readRecord_writeLine nonempty (rest.flatMap writeLine)
      rw [hlen] at hread
      rw [List.flatMap_cons, readRecords_of_readRecord
        (List.append_ne_nil_of_left_ne_nil (writeLine_ne_nil record) _) hread, ih even]
      rfl

/-! ## Counting lines -/

theorem countLineFeeds_lines (records : List (List String)) :
    countLineFeeds false (records.flatMap writeLine) = records.length := by
  induction records with
  | nil => rfl
  | cons record rest ih =>
      rw [List.flatMap_cons, countLineFeeds_writeLine, ih, List.length_cons]

theorem getLast?_lines {records : List (List String)} {last : UInt8}
    (h : last ∈ (records.flatMap writeLine).getLast?) : last = lineFeed := by
  induction records with
  | nil => cases h
  | cons record rest ih =>
      rw [List.flatMap_cons, List.getLast?_append] at h
      cases hr : (rest.flatMap writeLine).getLast? with
      | none =>
          rw [hr, Option.none_or, writeLine_eq, List.getLast?_append, List.getLast?_singleton,
            Option.some_or] at h
          exact (Option.mem_some.1 h).symm
      | some found =>
          rw [hr, Option.some_or, ← hr] at h
          exact ih h

/-- There are as many lines as records. -/
theorem countLines_lines (records : List (List String)) :
    countLines (records.flatMap writeLine) = records.length := by
  have hlast : (records.flatMap writeLine).getLast?.any (· != lineFeed) = false := by
    cases hl : (records.flatMap writeLine).getLast? with
    | none => rfl
    | some last =>
        rw [getLast?_lines hl]
        rfl
  rw [countLines, hlast]
  exact countLineFeeds_lines records

/-! ## Heading -/

def quotesDoubled (s : String) : String :=
  String.ofList (s.toList.flatMap fun c => if c = '"' then ['"', '"'] else [c])

theorem quotesDoubled_eq_self {s : String} (h : '"' ∉ s.toList) : quotesDoubled s = s := by
  have hself : s.toList.flatMap (fun c => if c = '"' then ['"', '"'] else [c]) =
      s.toList.flatMap fun c => [c] := by
    refine List.flatMap_congr fun c hc => if_neg ?_
    rintro rfl
    exact h hc
  rw [quotesDoubled, hself, List.flatMap_singleton', String.ofList_toList]

theorem length_flatMap_quotes (cs : List Char) :
    (cs.flatMap fun c => if c = '"' then ['"', '"'] else [c]).length =
      cs.length + cs.count '"' := by
  induction cs with
  | nil => rfl
  | cons c cs ih =>
      rw [List.flatMap_cons, List.length_append, ih, List.length_cons, List.count_cons]
      by_cases hc : c = '"' <;> simp [hc] <;> omega

theorem quotesDoubled_eq_self_iff (s : String) : quotesDoubled s = s ↔ '"' ∉ s.toList := by
  refine ⟨fun h => ?_, quotesDoubled_eq_self⟩
  have hlen := congrArg (fun text : String => text.toList.length) h
  simp only [quotesDoubled, String.toList_ofList, length_flatMap_quotes] at hlen
  exact List.count_eq_zero.1 (by omega)

theorem doubleQuotes_append (a b : List UInt8) :
    doubleQuotes (a ++ b) = doubleQuotes a ++ doubleQuotes b :=
  List.flatMap_append

theorem doubleQuotes_eq_self {field : List UInt8} (h : quote ∉ field) :
    doubleQuotes field = field := by
  induction field with
  | nil => rfl
  | cons b field ih =>
      rw [List.mem_cons, not_or] at h
      rw [doubleQuotes_cons_of_ne (Ne.symm h.1), ih h.2]

theorem quote_not_mem_encodeChar {c : Char} (h : c ≠ '"') : quote ∉ String.utf8EncodeChar c := by
  intro hq
  exact h (Utf8.encodeChar_of_mem hq (by decide))

theorem doubleQuotes_encode (cs : List Char) :
    doubleQuotes (Utf8.encode cs) =
      Utf8.encode (cs.flatMap fun c => if c = '"' then ['"', '"'] else [c]) := by
  induction cs with
  | nil => rfl
  | cons c cs ih =>
      rw [Utf8.encode_cons, doubleQuotes_append, ih, List.flatMap_cons]
      by_cases hc : c = '"'
      · subst hc
        rfl
      · rw [if_neg hc, List.singleton_append, Utf8.encode_cons,
          doubleQuotes_eq_self (quote_not_mem_encodeChar hc)]

theorem quotesDoubled_injective : Function.Injective quotesDoubled := by
  intro s t h
  have hbytes : doubleQuotes (Utf8.encode s.toList) = doubleQuotes (Utf8.encode t.toList) := by
    rw [doubleQuotes_encode, doubleQuotes_encode]
    exact congrArg Utf8.encode (String.ofList_injective h)
  -- over bytes there is an inverse already
  have hencode := congrArg undoubleQuotes hbytes
  rw [undoubleQuotes_doubleQuotes, undoubleQuotes_doubleQuotes] at hencode
  have hdecode := congrArg Utf8.decode hencode
  rw [Utf8.decode_encode, Utf8.decode_encode] at hdecode
  exact String.toList_inj.1 (Except.ok.inj hdecode)

theorem headingName_writeField (s : String) :
    headingName (writeField (Utf8.encode s.toList)) = quotesDoubled s := by
  have hname : String.ofList (Utf8.decodeLossy (doubleQuotes (Utf8.encode s.toList))) =
      quotesDoubled s := by
    rw [doubleQuotes_encode, Utf8.decodeLossy_encode, quotesDoubled]
  rw [← hname]
  rcases writeField_eq (Utf8.encode s.toList) with ⟨nonempty, plain, hw⟩ | hw
  · have bare : quote ∉ Utf8.encode s.toList := fun hq => (plain quote hq).2.1 rfl
    have hq := isQuoted_plain nonempty plain []
    rw [List.append_nil] at hq
    rw [hw, doubleQuotes_eq_self bare]
    simp [headingName, hq]
  · have hq : isQuoted (quote :: (doubleQuotes (Utf8.encode s.toList) ++ [quote])) = true := rfl
    rw [hw]
    simp [headingName, hq, stripEnds_quoted]

theorem headingNames_writtenFields {fields : List String} (nonempty : fields ≠ []) :
    headingNames (writtenFields fields) = fields.map quotesDoubled := by
  induction fields with
  | nil => exact absurd rfl nonempty
  | cons field rest ih =>
      cases rest with
      | nil =>
          have hcut : cut (writeField (Utf8.encode field.toList) ++ []) = _ :=
            cut_writeField _ fun _ => rfl
          rw [List.append_nil] at hcut
          rw [writtenFields_singleton, headingNames, hcut]
          simp [headingName_writeField]
      | cons next rest =>
          have hcut : cut (writeField (Utf8.encode field.toList) ++
              comma :: writtenFields (next :: rest)) = _ :=
            cut_writeField _ fun quotesCount => cutFrom_comma quotesCount _
          rw [writtenFields_cons_cons, headingNames, hcut]
          simp only [↓reduceDIte, headingName_writeField, ih (List.cons_ne_nil _ _),
            List.map_cons]

theorem markDuplicates_eq_self {seen names : List String} (distinct : names.Nodup)
    (fresh : ∀ name ∈ names, name ∉ seen) : markDuplicates seen names = names := by
  induction names generalizing seen with
  | nil => rfl
  | cons name rest ih =>
      obtain ⟨hname, distinct⟩ := List.nodup_cons.1 distinct
      obtain ⟨hfresh, fresh⟩ := List.forall_mem_cons.1 fresh
      have hrest : ∀ other ∈ rest, other ∉ name :: seen := by
        intro other ho hm
        rcases List.mem_cons.1 hm with rfl | hm
        · exact hname ho
        · exact fresh other ho hm
      rw [markDuplicates, List.count_eq_zero.2 hfresh, ih distinct hrest]

/-! ## Head of a file -/

theorem dropByteOrderMark_eq_self {bytes : List UInt8}
    (h : ∀ rest, bytes ≠ 0xef :: 0xbb :: 0xbf :: rest) : dropByteOrderMark bytes = bytes := by
  unfold dropByteOrderMark
  split
  · next rest => exact absurd rfl (h rest)
  · rfl

/-- A written text starts with a mark of byte order only if the text does. -/
theorem dropByteOrderMark_writeField {s : String} (unmarked : s.toList.head? ≠ some '\ufeff')
    (more : List UInt8) :
    dropByteOrderMark (writeField (Utf8.encode s.toList) ++ more) =
      writeField (Utf8.encode s.toList) ++ more := by
  refine dropByteOrderMark_eq_self fun rest hmark => ?_
  rcases writeField_eq (Utf8.encode s.toList) with ⟨nonempty, _, hw⟩ | hw
  · cases hs : s.toList with
    | nil => exact nonempty (by rw [hs]; rfl)
    | cons c cs =>
        -- both sides are read as whole characters, so the mark is no part of one
        have hpieces := congrArg Utf8.pieces hmark
        have hmarked : (0xef :: 0xbb :: 0xbf :: rest : List UInt8) =
            String.utf8EncodeChar '\ufeff' ++ rest := rfl
        rw [hw, hs, Utf8.encode_cons, List.append_assoc, Utf8.pieces_encodeChar, hmarked,
          Utf8.pieces_encodeChar] at hpieces
        have hc : c = '\ufeff' := by
          injection hpieces with hpiece _
          injection hpiece
        exact unmarked (by rw [hs, hc]; rfl)
  · rw [hw] at hmark
    cases hmark

theorem skipBlankLines_cons {b : UInt8} (hl : b ≠ lineFeed) (hr : b ≠ carriageReturn)
    (rest : List UInt8) : skipBlankLines (b :: rest) = b :: rest := by
  unfold skipBlankLines
  split <;> simp_all [lineFeed, carriageReturn]

theorem skipBlankLines_writeField (field more : List UInt8) :
    skipBlankLines (writeField field ++ more) = writeField field ++ more := by
  rcases writeField_eq field with ⟨nonempty, plain, hw⟩ | hw
  · obtain ⟨b, tail, rfl⟩ := List.exists_cons_of_ne_nil nonempty
    obtain ⟨⟨_, _, hl, hr⟩, _⟩ := List.forall_mem_cons.1 plain
    rw [hw, List.cons_append, skipBlankLines_cons hl hr]
  · rw [hw, List.cons_append, skipBlankLines_cons (by decide) (by decide)]

/-! ## Files -/

theorem writtenFields_head (first : String) (rest : List String) :
    ∃ more, writtenFields (first :: rest) = writeField (Utf8.encode first.toList) ++ more := by
  cases rest with
  | nil => exact ⟨[], (List.append_nil _).symm⟩
  | cons next rest => exact ⟨_, writtenFields_cons_cons first next rest⟩

theorem getLast?_writtenFields (fields : List String) :
    (writtenFields fields).getLast? ≠ some carriageReturn := by
  induction fields with
  | nil => exact nofun
  | cons field rest ih =>
      cases rest with
      | nil => exact getLast?_writeField _
      | cons next rest =>
          obtain ⟨more, hmore⟩ := writtenFields_head next rest
          obtain ⟨last, hlast⟩ := Option.ne_none_iff_exists'.1 (mt List.getLast?_eq_none_iff.1
            (List.append_ne_nil_of_left_ne_nil (writeField_ne_nil (Utf8.encode next.toList)) more))
          rw [← hmore] at hlast
          rw [hlast] at ih
          rwa [writtenFields_cons_cons, List.getLast?_append, List.getLast?_cons, hlast,
            Option.getD_some, Option.some_or]

/-- The sheet of a written file: the names with their quotes doubled over the other lines. -/
theorem ofFile_writeLine {first : String} {rest : List String}
    (distinct : (first :: rest).Nodup) (unmarked : first.toList.head? ≠ some '\ufeff')
    (body : List UInt8) :
    Sheet.ofFile (writeLine (first :: rest) ++ body) =
      .ok ⟨(first :: rest).map quotesDoubled, body, distinct.map quotesDoubled_injective⟩ := by
  have distinct' := distinct.map quotesDoubled_injective
  obtain ⟨more, hmore⟩ := writtenFields_head first rest
  have hhead : skipBlankLines (dropByteOrderMark (writeLine (first :: rest) ++ body)) =
      writeLine (first :: rest) ++ body := by
    rw [writeLine_eq, hmore, List.append_assoc, List.append_assoc,
      dropByteOrderMark_writeField unmarked, skipBlankLines_writeField]
  have hfilled : (writeLine (first :: rest) ++ body).isEmpty = false := by
    simp [writeLine_ne_nil]
  have hnames : markDuplicates [] (headingNames (dropReturn (writtenFields (first :: rest)))) =
      (first :: rest).map quotesDoubled := by
    rw [dropReturn, if_neg (by simpa using getLast?_writtenFields (first :: rest)),
      headingNames_writtenFields (List.cons_ne_nil first rest),
      markDuplicates_eq_self distinct' fun _ _ => List.not_mem_nil]
  rw [Sheet.ofFile]
  simp only [hhead, hfilled, splitHeading_writeLine, hnames, Bool.false_eq_true, ↓reduceIte,
    distinct', ↓reduceDIte]

theorem Sheet.frame_of_read {f : Frame} {body : List UInt8}
    (hread : readRecords f.names.length body = .ok f.records)
    (hcount : f.records.length = countLines body) :
    Sheet.frame ⟨f.names, body, f.distinct⟩ = .ok f := by
  rw [Sheet.frame]
  split
  · next cause he =>
      rw [hread] at he
      cases he
  · next records hr =>
      rw [hread] at hr
      cases hr
      rw [if_pos hcount]

end Wordsheet.Csv

namespace Wordsheet.Frame

open Csv

def reread (f : Frame) : Frame where
  names := f.names.map quotesDoubled
  records := f.records.map fun record => record.map fun entry => some (entry.getD "")
  distinct := f.distinct.map quotesDoubled_injective
  even := by
    intro record h
    obtain ⟨written, hw, rfl⟩ := List.mem_map.1 h
    rw [List.length_map, List.length_map, f.even written hw]

theorem names_reread (f : Frame) : f.reread.names = f.names.map quotesDoubled := rfl

theorem records_reread (f : Frame) :
    f.reread.records = f.records.map fun record => record.map fun entry => some (entry.getD "") :=
  rfl

/-- The file of a frame holds the frame, with an empty text for every missing entry and the
double quotes in the names doubled. -/
theorem ofCsv_toCsv (f : Frame) {first : String} {rest : List String}
    (hnames : f.names = first :: rest) (unmarked : first.toList.head? ≠ some '\ufeff') :
    ofCsv f.toCsv = .ok f.reread := by
  let lines := f.records.map fun record => record.map fun entry => entry.getD ""
  have hbody : (f.records.flatMap fun record => writeLine (record.map (·.getD ""))) =
      lines.flatMap writeLine := (List.flatMap_map ..).symm
  have wide : f.names.length ≠ 0 := by simp [hnames]
  have even : ∀ line ∈ lines, line.length = f.names.length := by
    intro line h
    obtain ⟨record, hr, rfl⟩ := List.mem_map.1 h
    rw [List.length_map, f.even record hr]
  have hread : readRecords f.reread.names.length (lines.flatMap writeLine) =
      .ok f.reread.records := by
    rw [names_reread, List.length_map, readRecords_lines wide even, List.map_map]
    simp [records_reread, Function.comp_def]
  have hcount : f.reread.records.length = countLines (lines.flatMap writeLine) := by
    rw [countLines_lines, records_reread, List.length_map, List.length_map]
  have hsheet : Sheet.ofFile f.toCsv =
      .ok ⟨f.reread.names, lines.flatMap writeLine, f.reread.distinct⟩ := by
    have distinct : (first :: rest).Nodup := hnames ▸ f.distinct
    rw [toCsv, hbody]
    simp only [names_reread, hnames]
    exact ofFile_writeLine distinct unmarked _
  rw [ofCsv, hsheet]
  exact Sheet.frame_of_read hread hcount

end Wordsheet.Frame
