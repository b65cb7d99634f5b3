import Wordsheet.Proofs.Catalog
import Wordsheet.Proofs.Text.Utf8
import Wordsheet.Project

/-! # Reading files again

A file that is written turns no folder into a file, so its path still leads to the same place, and
its bytes are found there. A file with the bytes of a text is read as that text, line ends apart.
-/

namespace Wordsheet.Store

variable {s after : Store} {p : Path} {bytes : List UInt8}

theorem entryAt?_put (s : Store) (e : Entry) (place : List String) :
    (s.put e).entryAt? place =
      if Entry.key ⟨place, none⟩ = e.key then some e else s.entryAt? place :=
  Catalog.get?_put ..

theorem write_eq_ok (h : s.write p bytes = .ok after) :
    ∃ place, s.place p = .ok place ∧ s.isFolderAt place = false ∧
      after = s.put ⟨place, some bytes⟩ := by
  rw [write] at h
  cases hp : s.place p with
  | error cause =>
      rw [hp] at h
      cases h
  | ok place =>
      simp only [hp, bind, Except.bind] at h
      split at h
      · cases h
      · next free =>
          cases h
          exact ⟨place, rfl, Bool.not_eq_true _ ▸ free, rfl⟩

theorem isFolder_of_write (h : s.write p bytes = .ok after) : s.isFolder p = false := by
  obtain ⟨place, hplace, free, _⟩ := write_eq_ok h
  rw [isFolder, hplace]
  exact free

/-- A path to a file leads to no folder. -/
theorem isFolder_of_read (h : s.read p = .ok bytes) : s.isFolder p = false := by
  rw [read] at h
  cases hp : s.place p with
  | error cause =>
      rw [hp] at h
      cases h
  | ok place =>
      simp only [hp, bind, Except.bind] at h
      split at h
      · cases h
      · next free =>
          rw [isFolder, hp]
          exact Bool.not_eq_true _ ▸ free

/-- Where some bytes are written, others can be. -/
theorem exists_write (h : s.write p bytes = .ok after) (others : List UInt8) :
    ∃ final, s.write p others = .ok final := by
  obtain ⟨place, hplace, free, _⟩ := write_eq_ok h
  refine ⟨s.put ⟨place, some others⟩, ?_⟩
  rw [write, hplace]
  simp only [bind, Except.bind, free]
  rfl

/-- A file that is put where no folder is leaves the folders as they are. -/
theorem isFolderAt_put_file {place : List String} (free : s.isFolderAt place = false)
    (bytes : List UInt8) (other : List String) :
    (s.put ⟨place, some bytes⟩).isFolderAt other = s.isFolderAt other := by
  rw [isFolderAt, isFolderAt, entryAt?_put]
  -- two places may have one key, so the keys are compared and not the places
  split
  · next same =>
      have hentry : s.entryAt? other = s.entryAt? place := congrArg s.entries.get? same
      rw [isFolderAt, Bool.or_eq_false_iff] at free
      rw [hentry, free.2]
      rfl
  · rfl

/-- Names lead to the same place in a store with the same folders. -/
theorem resolve_of_same_folders (same : ∀ place, after.isFolderAt place = s.isFolderAt place)
    {here names place : List String} (h : s.resolve here names = .ok place) :
    after.resolve here names = .ok place := by
  induction names generalizing here with
  | nil => exact h
  | cons name rest ih =>
      rw [resolve, enter] at h ⊢
      rw [same here]
      by_cases folder : s.isFolderAt here = true
      · simp only [if_pos folder, bind, Except.bind] at h ⊢
        split at h
        · next up => rw [if_pos up]; exact ih h
        · next down =>
            rw [if_neg down]
            split at h
            · cases h
            · next short => rw [if_neg short]; exact ih h
      · -- nothing lies below what is no folder
        exfalso
        rw [if_neg folder] at h
        split at h <;> cases h

theorem place_of_same_folders (same : ∀ place, after.isFolderAt place = s.isFolderAt place)
    (working : after.working = s.working) {place : List String} (h : s.place p = .ok place) :
    after.place p = .ok place := by
  rw [Store.place] at h ⊢
  split at h
  · cases h
  · next valid =>
      rw [if_neg valid]
      split at h
      · next short =>
          have hstart : after.start p = s.start p := by rw [start, start, working]
          rw [if_pos short, hstart]
          exact resolve_of_same_folders same h
      · cases h

/-- A written file is there with its bytes. -/
theorem read_write (h : s.write p bytes = .ok after) :
    after.read p = .ok bytes ∧ after.isFolder p = false := by
  obtain ⟨place, hplace, free, rfl⟩ := write_eq_ok h
  have same := isFolderAt_put_file free bytes
  have hafter := place_of_same_folders same rfl hplace
  have hfound : (s.put ⟨place, some bytes⟩).entryAt? place = some ⟨place, some bytes⟩ :=
    (entryAt?_put ..).trans (if_pos rfl)
  constructor
  · rw [read, hafter]
    simp only [bind, Except.bind, same, free, hfound]
    rfl
  · rw [isFolder, hafter]
    exact (same place).trans free

theorem readText_of_read {text : List Char} (h : s.read p = .ok (Text.Utf8.encode text)) :
    s.readText p = .ok (Text.joinReturns text) := by
  rw [readText, h]
  change ((Text.Utf8.decode (Text.Utf8.encode text)).mapError TextError.malformed >>=
    fun text => pure (Text.joinReturns text)) = _
  rw [Text.Utf8.decode_encode]
  rfl

end Wordsheet.Store
