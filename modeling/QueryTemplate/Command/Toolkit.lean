import QueryTemplate.Command.Options
import QueryTemplate.Log.Columns

/-! What commands leave to others: reading words, and writing to a terminal. -/
namespace QueryTemplate

structure Toolkit where
  /-- Reads words, given the options there are and whether they may stand among the arguments. -/
  readWords : List OptionSpec → Bool → List String → Except UsageError CommandLine
  /-- The known names that a mistyped one is like. -/
  similar : String → List String → List String
  /-- What is written of a line where there is no terminal. -/
  plain : Text → Text
  /-- What is written of text with style tags. -/
  paragraph : Text → Except MarkupError Text
  /-- What is written of text with style tags in a frame, under a title. -/
  panel : Text → Text → Except MarkupError Text
  table : Screen.Table → Text
  /-- A log record in columns, from its time, its level and its text. -/
  columns : String → Level → String → String

/-- The toolkit that the program runs with. -/
def Toolkit.standard : Toolkit where
  readWords := CommandLine.readWords
  similar := Likeness.similar
  plain := Control.strip
  paragraph := Screen.paragraph
  panel := Screen.panel
  table := Screen.Table.render
  columns := LogLayout.inColumns

end QueryTemplate
