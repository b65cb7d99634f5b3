import Wordsheet.Proofs.Session.Effect
import Wordsheet.Proofs.Table.Frame

/-! # What holds throughout a session

Every workbook that a session meets on the way from an empty one is sound, whatever it is asked and
whatever files it finds.
-/

namespace Wordsheet

namespace Workbook.Sound

variable {w after : Workbook} {t : Table}

theorem rectangular_of_active (sound : w.Sound) (active : w.activeTable? = some t) :
    t.Rectangular := by
  obtain ⟨name, _, found⟩ := active_of_activeTable? active
  exact sound.rectangular_of_table? found

theorem change (sound : w.Sound) (change : w.Change after) : after.Sound := by
  cases change with
  | create name => exact sound.create name
  | switch h => exact sound.switchTo h
  | delete name => exact sound.delete name
  | copy h => exact sound.copy h
  | edit active edits =>
      exact sound.changeActive active (Table.name_edits edits)
        ((sound.rectangular_of_active active).edits edits)
  | load h => exact sound.putActive (Table.rectangular_of_importFrom h)

end Workbook.Sound

namespace Session

theorem sound_respond {s : Session} (sound : s.workbook.Sound) (request : Request) :
    (s.respond request).session.workbook.Sound := by
  cases leads_respond s request with
  | same hs =>
      rw [hs]
      exact sound
  | changed change hs =>
      rw [hs]
      exact sound.change change
  | defined _ hs =>
      rw [hs]
      exact sound

/-- A session after some requests in order, each with the files that are there when it comes. -/
def after (s : Session) : List (Store × Request) → Session
  | [] => s
  | (store, request) :: rest => ({ s with store }.respond request).session.after rest

theorem sound_after {s : Session} (sound : s.workbook.Sound) (requests : List (Store × Request)) :
    (s.after requests).workbook.Sound := by
  induction requests generalizing s with
  | nil => exact sound
  | cons first rest ih =>
      have found : ({ s with store := first.1 } : Session).workbook.Sound := sound
      exact ih (sound_respond found first.2)

/-- The workbook of a session that started empty is sound after every request, whether it succeeds,
is refused or is aborted. -/
theorem sound_after_start (settings : Settings) (engine : Formula.Engine) (base : Path)
    (store : Store) (requests : List (Store × Request)) :
    ((start settings engine base store).after requests).workbook.Sound :=
  sound_after .empty requests

end Session

end Wordsheet
