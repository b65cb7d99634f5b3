import Wordsheet.Command.Help
import Wordsheet.Command.Parser
import Wordsheet.Session.Formulas
import Wordsheet.Session.Tables

/-! # Running commands

Every command leads to one outcome, and so does every line: one that is no
command is refused with the forms of all commands. A session is asked lines and
commands in turn.
-/

namespace Wordsheet.Session

def help (s : Session) (topic : Option String) : Outcome :=
  if topic.any fun topic => ["formula", "formulas"].contains (Text.smallLetters topic) then
    s.answer "Formula help:" (some Command.formulaHelp)
  else s.answer "Commands:" (some Command.usage)

def execute (s : Session) : Command → Outcome
  | .createTable table => s.createTable table
  | .deleteTable table => s.deleteTable table
  | .switchTable table => s.switchTable table
  | .copyTable source destination => s.copyTable source destination
  | .showTable => s.showTable
  | .listTables => s.listTables
  | .addRows rows => s.changeEach addRows rows
  | .deleteRows rows => s.changeEach deleteRows rows
  | .addColumns columns => s.changeEach addColumns columns
  | .deleteColumns columns => s.changeEach deleteColumns columns
  | .fillRow row values => s.fillRow row values
  | .fillColumn column values => s.fillColumn column values
  | .setCell row column value => s.setCell row column value
  | .renameRow old new => s.renameRow old new
  | .renameColumn old new => s.renameColumn old new
  | .exportTable file => s.exportTable file
  | .importTable file => s.importTable file
  | .calculate expression => s.calculate expression
  | .defineConstant name value => s.defineConstant name value
  | .help topic => s.help topic

def runLine (s : Session) (line : String) : Outcome :=
  match Command.parse? line with
  | some command => s.execute command
  | none =>
      { session := s
        reply := .ok ⟨false, "I didn't understand that.", some Command.usage⟩
        notice := some {
          level := .warning, happening := .commandRejected, message := "Command not understood",
          context := [("input", .text line)] } }

/-- What a session is asked: a line, a command, or something of a kind that is no command. -/
inductive Request where
  | line (line : String)
  | command (command : Command)
  | unknown (kind : String)
  deriving DecidableEq, Repr

def respond (s : Session) : Request → Outcome
  | .line line => s.runLine line
  | .command command => s.execute command
  | .unknown kind => s.refuse s!"Unknown command type: {kind}"

end Wordsheet.Session
