import Wordsheet.Proofs.Csv.Exchange
import Wordsheet.Proofs.Session.Effect

/-! # Imports

An import of a file that is there has a reply, which adds the table or says that the import failed,
unless the files that the path stands for are malformed or cannot be told: then it is aborted. In
one file that is read alone, malformed are a heading with a name twice, a record with too many
fields, an open quote or a field that is no text, and lines that are not the records.
-/

namespace Wordsheet

/-! ## Malformed files -/

namespace Csv

variable {width : Nat} {bytes : List UInt8} {cause : ReadError}

theorem entry_error (h : entry bytes = .error cause) :
    cause = .openQuote ∨ cause = .invalidText := by
  simp only [entry] at h
  split at h
  · cases h
  · split at h
    · cases h
      exact .inl rfl
    · split at h
      · cases h
      · cases h
        exact .inr rfl

/-- What is wrong with a record: it has too many fields, or one of them is no entry. -/
def RecordError (cause : ReadError) : Prop :=
  cause = .tooManyFields ∨ cause = .openQuote ∨ cause = .invalidText

theorem recordError_of_readRecord (h : readRecord width bytes = .error cause) :
    RecordError cause := by
  induction width generalizing bytes with
  | zero =>
      cases h
      exact .inl rfl
  | succ width ih =>
      simp only [readRecord, bind, Except.bind] at h
      cases hentry : entry (cut bytes).field with
      | error first =>
          rw [hentry] at h
          cases h
          exact .inr (entry_error hentry)
      | ok first =>
          simp only [hentry] at h
          split at h
          · cases hmore : readRecord width (cut bytes).rest with
            | error later =>
                rw [hmore] at h
                cases h
                exact ih hmore
            | ok next =>
                rw [hmore] at h
                cases h
          · cases h

theorem recordError_of_readRecords (h : readRecords width bytes = .error cause) :
    RecordError cause := by
  fun_induction readRecords width bytes with
  | case1 => cases h
  | case2 b bytes first hfirst =>
      cases h
      exact recordError_of_readRecord hfirst
  | case3 b bytes record rest hrecord ih =>
      cases hmore : readRecords width rest with
      | error later =>
          rw [hmore] at h
          cases h
          exact ih hmore
      | ok records =>
          rw [hmore] at h
          cases h

theorem readRecords_of_first (filled : bytes ≠ []) (h : readRecord width bytes = .error cause) :
    readRecords width bytes = .error cause := by
  cases bytes with
  | nil => exact absurd rfl filled
  | cons b bytes =>
      rw [readRecords]
      split
      · next first hfirst =>
          rw [h] at hfirst
          exact congrArg _ (Except.error.inj hfirst.symm)
      · next hfirst =>
          rw [h] at hfirst
          cases hfirst

theorem Sheet.ofFile_error (h : Sheet.ofFile bytes = .error cause) :
    cause = .noData ∨ cause = .repeatedName := by
  simp only [Sheet.ofFile] at h
  split at h
  · cases h
    exact .inl rfl
  · split at h
    · cases h
    · cases h
      exact .inr rfl

theorem Sheet.frame_error {sheet : Sheet} (h : sheet.frame = .error cause) :
    RecordError cause ∨ cause = .brokenLines := by
  simp only [Sheet.frame] at h
  split at h
  · next hrecords =>
      cases h
      exact .inl (recordError_of_readRecords hrecords)
  · split at h
    · cases h
    · cases h
      exact .inr rfl

theorem Sheet.frame_of_records {sheet : Sheet}
    (h : readRecords sheet.names.length sheet.body = .error cause) :
    sheet.frame = .error cause := by
  rw [Sheet.frame]
  split
  · next found =>
      rw [h] at found
      exact congrArg _ (Except.error.inj found.symm)
  · next found =>
      rw [h] at found
      cases found

end Csv

/-- A file alone that holds something is no frame for one of five reasons. -/
theorem Frame.ofCsv_error {bytes : List UInt8} {cause : Csv.ReadError}
    (h : Frame.ofCsv bytes = .error cause) (filled : cause ≠ .noData) :
    cause = .repeatedName ∨ Csv.RecordError cause ∨ cause = .brokenLines := by
  simp only [Frame.ofCsv, bind, Except.bind] at h
  cases hsheet : Csv.Sheet.ofFile bytes with
  | error first =>
      rw [hsheet] at h
      cases h
      exact .inl ((Csv.Sheet.ofFile_error hsheet).resolve_left filled)
  | ok sheet =>
      rw [hsheet] at h
      exact .inr (Csv.Sheet.frame_error h)

/-! ## Files that are not read -/

/-- Why the files that a path stands for are not read: they cannot be told, or they are malformed,
which an empty file is not. -/
inductive Store.Unreadable (store : Store) (file : Path) : Abort → Prop where
  | search {cause : SearchError} (h : store.filesFor file = .error cause) :
      Unreadable store file (.noFiles cause)
  | malformed {files : List (List UInt8)} {cause : Csv.ReadError}
      (found : store.filesFor file = .ok files) (h : Frame.ofFiles files = .error cause)
      (filled : cause ≠ .noData) : Unreadable store file (.malformedFile cause)

def ImportError.abort? : ImportError → Option Abort
  | .search cause => some (.noFiles cause)
  | .malformed cause => some (.malformedFile cause)
  | _ => none

namespace Table

variable {store : Store} {file : Path} {bytes : List UInt8} {abort : Abort}

theorem frameFrom_of_files {files : List (List UInt8)} (found : store.filesFor file = .ok files) :
    frameFrom store file =
      match Frame.ofFiles files with
      | .ok frame => .ok frame
      | .error .noData => .error (.noData file)
      | .error cause => .error (.malformed cause) := by
  rw [frameFrom, found]
  rfl

/-- No frame is got without a reply exactly if the files are not read. -/
theorem unreadable_iff_frameFrom :
    store.Unreadable file abort ↔
      ∃ cause, frameFrom store file = .error cause ∧ cause.abort? = some abort := by
  constructor
  · intro unreadable
    cases unreadable with
    | @search cause h =>
        refine ⟨.search cause, ?_, rfl⟩
        rw [frameFrom, h]
        rfl
    | @malformed files cause found h filled =>
        refine ⟨.malformed cause, ?_, rfl⟩
        rw [frameFrom_of_files found, h]
        cases cause <;> first | rfl | exact absurd rfl filled
  · rintro ⟨cause, h, habort⟩
    cases found : store.filesFor file with
    | error unknown =>
        rw [frameFrom, found] at h
        cases h
        cases habort
        exact .search found
    | ok files =>
        rw [frameFrom_of_files found] at h
        split at h
        · cases h
        · cases h
          cases habort
        · next e filled hfiles =>
            cases h
            cases habort
            exact .malformed found hfiles filled

theorem name_of_toTable {f : Frame} {name header : String} {t : Table}
    (h : f.toTable name header = .ok t) : t.name = name := by
  rw [Frame.toTable] at h
  split at h
  · cases h
  · split at h
    · cases h
    · dsimp only at h
      split at h
      · cases h
        rfl
      · cases h

theorem importFrom_of_frameFrom_error {cause : ImportError} (present : store.read file = .ok bytes)
    (h : frameFrom store file = .error cause) (name : Option String) (header : Yaml) :
    importFrom store file name header = .error cause := by
  rw [importFrom, present]
  simp only [h]
  rfl

theorem importFrom_of_frameFrom {frame : Frame} (present : store.read file = .ok bytes)
    (h : frameFrom store file = .ok frame) (name : Option String) (header : Yaml) :
    importFrom store file name header =
      match header with
      | .text header => (frame.toTable (importName file name) header).mapError .frame
      | other => .error (.header other (frame.names.take 1)) := by
  rw [importFrom, present]
  simp only [h]
  rfl

/-- A frame that was got is no cause for an abort any more. -/
theorem abort?_of_frameFrom {frame : Frame} {cause : ImportError} {name : Option String}
    {header : Yaml} (present : store.read file = .ok bytes)
    (hframe : frameFrom store file = .ok frame)
    (h : importFrom store file name header = .error cause) : cause.abort? = none := by
  rw [importFrom_of_frameFrom present hframe] at h
  split at h
  · cases htable : frame.toTable (importName file name) _ with
    | error refusal =>
        rw [htable] at h
        cases h
        rfl
    | ok t =>
        rw [htable] at h
        cases h
  · cases h
    rfl

/-- An import of a file that is there fails without a reply exactly if the files are not read. -/
theorem unreadable_iff_importFrom (present : store.read file = .ok bytes) (name : Option String)
    (header : Yaml) :
    store.Unreadable file abort ↔
      ∃ cause, importFrom store file name header = .error cause ∧ cause.abort? = some abort := by
  rw [unreadable_iff_frameFrom]
  cases hframe : frameFrom store file with
  | error cause =>
      rw [importFrom_of_frameFrom_error present hframe]
      simp only [Except.error.injEq]
  | ok frame =>
      constructor
      · rintro ⟨cause, h, _⟩
        cases h
      · rintro ⟨cause, h, habort⟩
        rw [abort?_of_frameFrom present hframe h] at habort
        cases habort

theorem name_of_importFrom {t : Table} {header : Yaml}
    (h : importFrom store file none header = .ok t) : t.name = file.stem := by
  obtain ⟨_, _, _, _, made⟩ := importFrom_eq_ok h
  exact name_of_toTable made

theorem filesFor_of_read (present : store.read file = .ok bytes) (single : file.isPattern = false) :
    store.filesFor file = .ok [bytes] := by
  rw [Store.filesFor, Store.isFolder_of_read present, single, present]
  rfl

/-- A file that is read alone is not read for what is wrong with its own bytes. -/
theorem unreadable_iff_ofCsv (present : store.read file = .ok bytes)
    (single : file.isPattern = false) :
    store.Unreadable file abort ↔
      ∃ cause, abort = .malformedFile cause ∧ Frame.ofCsv bytes = .error cause ∧
        cause ≠ .noData := by
  have hfiles := filesFor_of_read present single
  constructor
  · intro unreadable
    cases unreadable with
    | search h =>
        rw [hfiles] at h
        cases h
    | malformed found h filled =>
        rw [hfiles] at found
        cases found
        exact ⟨_, rfl, Frame.ofFiles_singleton bytes ▸ h, filled⟩
  · rintro ⟨cause, rfl, h, filled⟩
    exact .malformed hfiles (Frame.ofFiles_singleton bytes ▸ h) filled

end Table

namespace Session

/-! ## The reply -/

/-- The reply to an import from a path: the table is added and active, or nothing is changed. -/
inductive ImportAnswered (s : Session) (file : Path) (o : Outcome) : Prop where
  | added {t : Table} {message : String}
      (read : Table.importFrom s.store file none s.settings.rowHeader = .ok t)
      (named : t.name = file.stem) (reply : o.reply = .ok ⟨true, message, none⟩)
      (session : o.session = s.withWorkbook (s.workbook.putActive t))
      (active : o.session.workbook.activeTable? = some t)
  | refused {message : String} (reply : o.reply = .ok ⟨false, "Import failed: " ++ message, none⟩)
      (session : o.session = s)

variable {s : Session} {file : String} {bytes : List UInt8} {request : Request}

theorem activeTable?_putActive (w : Workbook) (t : Table) :
    (w.putActive t).activeTable? = some t :=
  (Workbook.table?_putTable ..).trans (if_pos rfl)

theorem importTable_of_error {cause : ImportError}
    (h : Table.importFrom s.store (s.resolve file) none s.settings.rowHeader = .error cause) :
    s.importTable file =
      match cause.abort? with
      | some abort => s.abort abort
      | none => s.refuse ("Import failed: " ++ cause.message) := by
  rw [importTable]
  simp only [h]
  cases cause <;> rfl

theorem importAnswered_of_readable (present : s.store.read (s.resolve file) = .ok bytes)
    (readable : ¬ ∃ abort, s.store.Unreadable (s.resolve file) abort) :
    s.ImportAnswered (s.resolve file) (s.importTable file) := by
  cases h : Table.importFrom s.store (s.resolve file) none s.settings.rowHeader with
  | error cause =>
      have handled : cause.abort? = none := by
        rw [Option.eq_none_iff_forall_ne_some]
        intro abort habort
        have unreadable := (Table.unreadable_iff_importFrom present none _).2 ⟨cause, h, habort⟩
        exact readable ⟨abort, unreadable⟩
      rw [importTable_of_error h, handled]
      exact .refused rfl rfl
  | ok t =>
      rw [importTable]
      simp only [h]
      exact .added h (Table.name_of_importFrom h) rfl rfl (activeTable?_putActive ..)

theorem importTable_of_unreadable {abort : Abort}
    (present : s.store.read (s.resolve file) = .ok bytes)
    (unreadable : s.store.Unreadable (s.resolve file) abort) :
    s.importTable file = s.abort abort := by
  obtain ⟨cause, h, habort⟩ := (Table.unreadable_iff_importFrom present none _).1 unreadable
  rw [importTable_of_error h, habort]

/-- An import of a file that is there is answered exactly if the files that its path stands for are
read. Otherwise it is aborted for the reason they are not, and nothing is changed. A file that is
read alone is not read exactly if it holds something and is no frame, for one of five reasons. -/
theorem importAnswered_iff (present : s.store.read (s.resolve file) = .ok bytes)
    (asks : request.Asks (.importTable file)) :
    (s.ImportAnswered (s.resolve file) (s.respond request) ↔
        ¬ ∃ abort, s.store.Unreadable (s.resolve file) abort) ∧
      (∀ abort, s.store.Unreadable (s.resolve file) abort →
        (s.respond request).reply = .error abort ∧ (s.respond request).session = s) ∧
      ((s.resolve file).isPattern = false → ∀ abort, s.store.Unreadable (s.resolve file) abort ↔
        ∃ cause, abort = .malformedFile cause ∧ Frame.ofCsv bytes = .error cause ∧
          (cause = .repeatedName ∨ Csv.RecordError cause ∨ cause = .brokenLines)) := by
  have hrespond : s.respond request = s.importTable file := respond_of_asks s asks
  have aborted (abort : Abort) (unreadable : s.store.Unreadable (s.resolve file) abort) :
      (s.respond request).reply = .error abort ∧ (s.respond request).session = s := by
    rw [hrespond, importTable_of_unreadable present unreadable]
    exact ⟨rfl, rfl⟩
  refine ⟨⟨?_, ?_⟩, aborted, ?_⟩
  · rintro answered ⟨abort, unreadable⟩
    have hreply := (aborted abort unreadable).1
    cases answered with
    | added _ _ reply => exact nomatch hreply.symm.trans reply
    | refused reply => exact nomatch hreply.symm.trans reply
  · intro readable
    rw [hrespond]
    exact importAnswered_of_readable present readable
  · intro single abort
    rw [Table.unreadable_iff_ofCsv present single]
    refine exists_congr fun cause => and_congr_right fun _ => and_congr_right fun h => ?_
    constructor
    · exact Frame.ofCsv_error h
    · rintro (rfl | (rfl | rfl | rfl) | rfl) <;> exact nofun

def crowdedFile : List UInt8 :=
  [0x72, 0x6f, 0x77, 0x2c, 0x61, 0x0a, 0x72, 0x2c, 0x31, 0x2c, 0x32, 0x0a]

theorem ofCsv_crowdedFile : Frame.ofCsv crowdedFile = .error .tooManyFields := by
  have written : crowdedFile =
      Csv.writeLine ["row", "a"] ++ [0x72, 0x2c, 0x31, 0x2c, 0x32, 0x0a] := by
    decide +kernel
  rw [Frame.ofCsv, written, Csv.ofFile_writeLine (by decide) (by decide)]
  exact Csv.Sheet.frame_of_records (Csv.readRecords_of_first (by simp) (by decide +kernel))

def besideCrowdedFile : Session :=
  start .defaults .standard ⟨"/", []⟩ ((Store.empty []).put ⟨["t.csv"], some crowdedFile⟩)

theorem importAnswered_iff_crowdedFile :
    besideCrowdedFile.store.read (besideCrowdedFile.resolve "t.csv") = .ok crowdedFile ∧
      Command.parse? "import table from t.csv" = some (.importTable "t.csv") ∧
      (besideCrowdedFile.respond (.line "import table from t.csv")).reply =
        .error (.malformedFile .tooManyFields) ∧
      (besideCrowdedFile.respond (.line "import table from t.csv")).session =
        besideCrowdedFile := by
  have present : besideCrowdedFile.store.read (besideCrowdedFile.resolve "t.csv") =
      .ok crowdedFile := rfl
  have asked : Command.parse? "import table from t.csv" = some (.importTable "t.csv") := by decide
  obtain ⟨_, aborted, alone⟩ := importAnswered_iff present (.line asked)
  have unreadable := (alone rfl _).2
    ⟨.tooManyFields, rfl, ofCsv_crowdedFile, .inr (.inl (.inl rfl))⟩
  exact ⟨present, asked, aborted _ unreadable⟩

/-- A file with a field too many is there, and a line that imports it has no reply. -/
theorem not_importAnswered_crowdedFile :
    ¬ ∀ (s : Session) (file line : String) (bytes : List UInt8),
      s.store.read (s.resolve file) = .ok bytes →
        Command.parse? line = some (.importTable file) →
          s.ImportAnswered (s.resolve file) (s.runLine line) := by
  intro all
  have present : besideCrowdedFile.store.read (besideCrowdedFile.resolve "t.csv") =
      .ok crowdedFile := rfl
  have asked : Command.parse? "import table from t.csv" = some (.importTable "t.csv") := by decide
  have answered := all besideCrowdedFile "t.csv" _ crowdedFile present asked
  have unreadable := (Table.unreadable_iff_ofCsv present rfl).2
    ⟨.tooManyFields, rfl, ofCsv_crowdedFile, nofun⟩
  rw [runLine, asked] at answered
  simp only [execute, importTable_of_unreadable present unreadable] at answered
  cases answered with
  | added _ _ reply => cases reply
  | refused reply => cases reply

end Session

end Wordsheet
