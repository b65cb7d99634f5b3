import Wordsheet.Proofs.Table.Shape
import Wordsheet.Workbook

/-! # Tables of a workbook

What is kept under a name after each operation, and that every operation of a workbook keeps it
sound: the active table is there, and every table is rectangular and kept under its own name.
-/

namespace Wordsheet.Workbook

variable {w after : Workbook} {t : Table} {name : String}

/-! ## Looking up -/

theorem table?_isSome (w : Workbook) (name : String) :
    (w.table? name).isSome = w.hasTable name := by
  rw [table?, Option.isSome_map, Catalog.get?_isSome, hasTable]

theorem table?_of_absent (absent : w.hasTable name = false) : w.table? name = none := by
  rw [← Option.isNone_iff_eq_none, ← Option.isSome_eq_false_iff, table?_isSome]
  exact absent

theorem hasTable_of_table? (found : w.table? name = some t) : w.hasTable name = true := by
  rw [← table?_isSome, found, Option.isSome_some]

theorem hasTable_iff (w : Workbook) (name : String) :
    w.hasTable name = true ↔ ∃ kept ∈ w.tables.entries, kept.key = name := by
  rw [hasTable, Catalog.contains_iff, Catalog.keys, List.mem_map]

theorem mem_of_table? (found : w.table? name = some t) : ⟨name, t⟩ ∈ w.tables.entries := by
  obtain ⟨⟨key, table⟩, hk, rfl⟩ := Option.map_eq_some_iff.1 found
  obtain rfl : key = name := Catalog.key_of_get? hk
  exact Catalog.mem_of_get? hk

theorem active_of_activeTable? (h : w.activeTable? = some t) :
    ∃ name, w.active = some name ∧ w.table? name = some t :=
  Option.bind_eq_some_iff.1 h

theorem table?_putTable (w : Workbook) (put : String) (t : Table) (name : String) :
    (w.putTable put t).table? name = if name = put then some t else w.table? name := by
  rw [table?, putTable, Catalog.get?_put]
  split <;> rfl

theorem hasTable_putTable (w : Workbook) (put : String) (t : Table) (name : String) :
    (w.putTable put t).hasTable name = true ↔ w.hasTable name = true ∨ name = put :=
  Catalog.contains_put ..

theorem names_putTable (known : w.hasTable name = true) (t : Table) :
    (w.putTable name t).names = w.names :=
  (Catalog.keys_put ..).trans (if_pos ((Catalog.contains_iff ..).1 known))

/-- A table that is put under a free name is the only new one. -/
theorem table?_putTable_of_absent {put : String} (absent : w.hasTable put = false) (t : Table)
    (name : String) :
    (w.putTable put t).table? name = w.table? name ∨ name = put ∧ w.table? name = none := by
  rw [table?_putTable]
  by_cases hn : name = put
  · exact .inr ⟨hn, hn ▸ table?_of_absent absent⟩
  · exact .inl (if_neg hn)

theorem changeActive_of_active (active : w.active = some name) (t : Table) :
    w.changeActive t = w.putTable name t := by
  rw [changeActive, active]

theorem active_changeActive (w : Workbook) (t : Table) : (w.changeActive t).active = w.active := by
  rw [changeActive]
  split <;> rfl

theorem create_of_absent (absent : w.hasTable name = false) :
    w.create name = { w.putTable name (Table.empty name) with active := some name } :=
  if_neg (Bool.not_eq_true _ ▸ absent)

theorem table?_delete (w : Workbook) (gone name : String) :
    (w.delete gone).table? name = if name = gone then none else w.table? name := by
  rw [delete]
  split
  · rw [table?, Catalog.get?_erase]
    split <;> rfl
  · next absent =>
      split
      · next same => exact same ▸ table?_of_absent (Bool.not_eq_true _ ▸ absent)
      · rfl

theorem switchTo_eq_ok (h : w.switchTo name = .ok after) :
    w.hasTable name = true ∧ after = { w with active := some name } := by
  rw [switchTo] at h
  split at h
  · next known =>
      cases h
      exact ⟨known, rfl⟩
  · cases h

theorem hasTable_of_switchTo {cause : WorkbookError} (h : w.switchTo name = .error cause) :
    w.hasTable name = false := by
  rw [switchTo] at h
  split at h
  · cases h
  · next absent => exact Bool.not_eq_true _ ▸ absent

theorem copy_eq_ok {source : String} (h : w.copy source name = .ok after) :
    w.hasTable name = false ∧
      ∃ t, w.table? source = some t ∧ after = w.putTable name (t.copy name) := by
  rw [copy] at h
  split at h
  · cases h
  · next t found =>
      split at h
      · cases h
      · next absent =>
          cases h
          exact ⟨Bool.not_eq_true _ ▸ absent, t, found, rfl⟩

/-! ## Sound workbooks -/

/-- A workbook whose active table is there and whose tables are rectangular and kept under their
own names. -/
structure Sound (w : Workbook) : Prop where
  active : ∀ name, w.active = some name → w.hasTable name = true
  stored : ∀ kept ∈ w.tables.entries, kept.table.name = kept.key
  rectangular : ∀ kept ∈ w.tables.entries, kept.table.Rectangular

namespace Sound

theorem empty : Workbook.empty.Sound :=
  ⟨nofun, nofun, nofun⟩

theorem name_eq (sound : w.Sound) (found : w.table? name = some t) : t.name = name :=
  sound.stored _ (mem_of_table? found)

theorem rectangular_of_table? (sound : w.Sound) (found : w.table? name = some t) :
    t.Rectangular :=
  sound.rectangular _ (mem_of_table? found)

theorem putTable (sound : w.Sound) (named : t.name = name) (shape : t.Rectangular) :
    (w.putTable name t).Sound where
  active other hn := (hasTable_putTable ..).2 (.inl (sound.active other hn))
  stored := Catalog.forall_put sound.stored named
  rectangular := Catalog.forall_put sound.rectangular shape

theorem activate (sound : w.Sound) (known : w.hasTable name = true) :
    { w with active := some name }.Sound where
  active _ hn := Option.some.inj hn ▸ known
  stored := sound.stored
  rectangular := sound.rectangular

theorem putActive (sound : w.Sound) (shape : t.Rectangular) : (w.putActive t).Sound :=
  (sound.putTable rfl shape).activate ((hasTable_putTable ..).2 (.inr rfl))

theorem create (sound : w.Sound) (name : String) : (w.create name).Sound := by
  rw [Workbook.create]
  split
  · exact sound
  · exact (sound.putTable rfl (Table.rectangular_empty name)).activate
      ((hasTable_putTable ..).2 (.inr rfl))

/-- What takes the place of the active table has to have its name. -/
theorem changeActive {old : Table} (sound : w.Sound) (active : w.activeTable? = some old)
    (named : t.name = old.name) (shape : t.Rectangular) : (w.changeActive t).Sound := by
  obtain ⟨name, hname, found⟩ := active_of_activeTable? active
  rw [changeActive_of_active hname]
  exact sound.putTable (named.trans (sound.name_eq found)) shape

theorem switchTo (sound : w.Sound) (h : w.switchTo name = .ok after) : after.Sound := by
  obtain ⟨known, rfl⟩ := switchTo_eq_ok h
  exact sound.activate known

theorem delete (sound : w.Sound) (name : String) : (w.delete name).Sound := by
  rw [Workbook.delete]
  split
  · refine ⟨fun other hn => ?_, Catalog.forall_erase name sound.stored,
      Catalog.forall_erase name sound.rectangular⟩
    split at hn
    · cases hn
    · next kept =>
        have hne : other ≠ name := by
          rintro rfl
          exact kept hn
        exact Catalog.contains_erase w.tables (sound.active other hn) hne
  · exact sound

theorem copy {source : String} (sound : w.Sound) (h : w.copy source name = .ok after) :
    after.Sound := by
  obtain ⟨_, t, found, rfl⟩ := copy_eq_ok h
  exact sound.putTable rfl ((sound.rectangular_of_table? found).copy name)

end Sound

end Wordsheet.Workbook
