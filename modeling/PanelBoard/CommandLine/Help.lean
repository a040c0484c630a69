/-!
# Help pages

What a command is for, how it is used, and tables of what can be written, with
the explanations in one column.
-/

namespace PanelBoard.CommandLine

/-- A table of a help page: each term with its explanation. -/
structure HelpTable where
  title : String
  rows : List (String × String)

/-- A help page. -/
structure HelpPage where
  about : String
  usage : String
  tables : List HelpTable

/-- The row that explains how to ask for help. -/
def helpRow : String × String :=
  ("-h, --help", "Print help")

/-- Fill up with blanks. -/
def pad (width : Nat) (text : String) : String :=
  text ++ String.ofList (List.replicate (width - text.length) ' ')

/-- The lines of a table. The explanations begin two blanks behind the longest term. -/
def HelpTable.text (table : HelpTable) : String :=
  let width := (table.rows.map (·.1.length)).foldl max 0
  table.title ++ ":\n" ++
    String.join (table.rows.map fun (term, meaning) =>
      "  " ++ pad width term ++ "  " ++ meaning ++ "\n")

/-- The lines of a page. -/
def HelpPage.text (page : HelpPage) : String :=
  page.about ++ "\n\nUsage: " ++ page.usage ++ "\n" ++
    String.join (page.tables.map fun table => "\n" ++ table.text)

end PanelBoard.CommandLine
