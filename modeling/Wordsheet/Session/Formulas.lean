import Wordsheet.Session.Cells

/-! # Commands with formulas

A value that starts with the mark of a formula is evaluated before it is stored;
a formula without a value changes nothing. Every evaluation leaves a notice.
-/

namespace Wordsheet.Session

def afterMark? (mark text : String) : Option String :=
  if mark.toList.isPrefixOf text.toList then
    some (String.ofList (text.toList.drop mark.length))
  else none

/-- What the event log keeps of every evaluation: the formula and the active table. -/
def formulaContext (s : Session) (expression : String) : List (String × Json) :=
  let table := match s.workbook.activeTable? with
    | some t => .text t.name
    | none => .null
  [("expression", .text expression), ("table", table)]

def failureNotice (s : Session) (expression : String) (cause : Formula.Error) : Notice :=
  { level := .error, happening := .formulaFailed, message := cause.message,
    context := s.formulaContext expression, code := some cause.code }

def valueNotice (s : Session) (expression : String) (value : Float) : Notice :=
  { level := .info, happening := .formulaEvaluated, message := "Formula evaluated",
    context := s.formulaContext expression ++ [("result", .float value)] }

def withValue (s : Session) (expression : String) (run : Float → Outcome) : Outcome :=
  match s.engine.evaluate expression s.workbook.activeTable? with
  | .ok value => (run value).noting (s.valueNotice expression value)
  | .error (.error cause) =>
      (s.refuse s!"Formula error: {cause.message}").noting (s.failureNotice expression cause)
  | .error (.fault cause) => s.abort (.fault cause)

def storeCell (s : Session) (t : Table) (row column value : String) : Outcome :=
  s.changed (t.setCell row column value) s!"Set cell '{row}.{column}' to '{value}'"

def setCell (s : Session) (row column value : String) : Outcome :=
  s.onTable fun t =>
    match t.getCell row column with
    | .error cause => s.tableRefusal cause
    | .ok _ =>
        match afterMark? s.settings.marker value with
        | none => s.storeCell t row column value
        | some expression =>
            s.withValue expression fun result => s.storeCell t row column (plainText result)

/-- Answers with the value of a formula, which may be marked as one. -/
def calculate (s : Session) (expression : String) : Outcome :=
  s.withValue ((afterMark? s.settings.marker expression).getD expression) fun result =>
    s.answer (plainText result) none

def defineConstant (s : Session) (name value : String) : Outcome :=
  match Numeral.parse? value with
  | none => s.refuse s!"Constant value must be a number, got '{value}'."
  | some numeral =>
      let value := numeral.toFloat
      match s.engine.register name value with
      | .error cause => s.refuse cause.message
      | .ok engine =>
          (({ s with engine }).answer s!"Defined constant {name} = {plainText value}" none).noting
            { level := .info, happening := .constantRegistered, message := "Constant registered",
              context := [("name", .text name), ("value", .float value)] }

end Wordsheet.Session
