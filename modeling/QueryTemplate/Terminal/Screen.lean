import QueryTemplate.Terminal.Markup
import QueryTemplate.Text.Wrap

/-! Text, panels and tables on a terminal of limited width. -/
namespace QueryTemplate
namespace Screen

/-- The columns of the terminal. -/
def width : Nat := 80

def blanks (n : Nat) : Text := List.replicate n ' '

/-- A line with blanks after it up to a number of columns. -/
def padRight (n : Nat) (line : Text) : Text := line ++ blanks (n - Text.columns line)

/-- A line in the middle of a number of columns, with a filler on both sides. -/
def centre (n : Nat) (filler : Char) (line : Text) : Text :=
  let excess := n - Text.columns line
  List.replicate (excess / 2) filler ++ line ++ List.replicate (excess - excess / 2) filler

/-- Each line with a line end. -/
def ended (lines : List Text) : Text := lines.flatMap (· ++ ['\n'])

/-- The lines of text with style tags. -/
def paragraph (text : Text) : Except MarkupError Text := do
  pure (ended (Text.wrap width (← Markup.plain text)))

/-- Text with style tags in a frame as wide as the terminal, under a title. -/
def panel (title text : Text) : Except MarkupError Text := do
  let inner := width - 4
  let lines := Text.wrap inner (← Markup.plain text)
  let top := '╭' :: '─' :: centre inner '─' (' ' :: title ++ [' ']) ++ ['─', '╮']
  let bottom := '╰' :: List.replicate (width - 2) '─' ++ ['╯']
  pure (ended (top :: lines.map (fun l => '│' :: ' ' :: padRight inner l ++ [' ', '│']) ++ [bottom]))

/-- A table under its title: the names of its columns, then rows. -/
structure Table where
  title : Text
  header : List Text
  rows : List (List Text)

namespace Table

/-- The columns that each column takes: as many as its widest cell. -/
def widths (t : Table) : List Nat :=
  t.header.mapIdx fun i name =>
    (t.rows.map fun row => Text.columns (row.getD i [])).foldl max (Text.columns name)

/-- A line across, with corners and joints. -/
def ruler (left line joint right : Char) (widths : List Nat) : Text :=
  left :: [joint].intercalate (widths.map fun w => List.replicate (w + 2) line) ++ [right]

def row (bar : Char) (widths : List Nat) (cells : List Text) : Text :=
  bar :: [bar].intercalate
    (List.zipWith (fun w cell => ' ' :: padRight w cell ++ [' ']) widths cells) ++ [bar]

def render (t : Table) : Text :=
  let ws := t.widths
  let whole := ws.foldr (fun w rest => w + 3 + rest) 1
  ended (centre whole ' ' t.title ::
    ruler '┏' '━' '┳' '┓' ws :: row '┃' ws t.header :: ruler '┡' '━' '╇' '┩' ws ::
    t.rows.map (row '│' ws) ++ [ruler '└' '─' '┴' '┘' ws])

end Table
end Screen
end QueryTemplate
