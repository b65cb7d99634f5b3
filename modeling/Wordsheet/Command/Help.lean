/-! # Help

What the user is told about commands and formulas.
-/

namespace Wordsheet.Command

def usage : String :=
  "create table named NAME        delete table NAME\n"
    ++ "switch table NAME              copy table SOURCE to DEST\n"
    ++ "show table                     list tables\n"
    ++ "add rows NAME...               delete rows NAME...\n"
    ++ "add columns NAME...            delete columns NAME...\n"
    ++ "fill ROW with VALUE...         fill column COL with VALUE...\n"
    ++ "set ROW COL to VALUE           set ROW COL to =FORMULA\n"
    ++ "rename row OLD to NEW          rename column OLD to NEW\n"
    ++ "export table to FILE           import table from FILE\n"
    ++ "calc EXPRESSION                define NAME as NUMBER\n"
    ++ "help [formulas]"

def formulaHelp : String :=
  "Formulas reference cells as Row.Column and support + - * / and parentheses.\n"
    ++ "Functions: sin cos tan asin acos atan sqrt log log10 exp abs floor ceil\n"
    ++ "Constants: PI, E, plus any added with 'define NAME as NUMBER'.\n"
    ++ "There is no unary minus: write 0 - x."

end Wordsheet.Command
