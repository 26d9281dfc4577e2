import QueryTemplate.Text.Blank
import QueryTemplate.Text.Columns

/-! Breaking text into lines of a limited number of columns. -/
namespace QueryTemplate.Text

/-- Cuts where a blank comes before another character. -/
def cutWords : Text → List Text
  | [] => []
  | c :: rest =>
    match rest.head?, cutWords rest with
    | some d, word :: words =>
      if isBlank c && !isBlank d then [c] :: word :: words else (c :: word) :: words
    | _, _ => [[c]]

/-- The words of a text, each with the blanks after it; blanks before the first go with it, and
blanks alone are no word. -/
def words (text : Text) : List Text :=
  match cutWords text with
  | first :: rest =>
    if first.all isBlank then
      match rest with
      | second :: rest => (first ++ second) :: rest
      | [] => []
    else first :: rest
  | [] => []

/-- Pieces of at most `width` columns, the first after a piece that was begun already. -/
def chopFrom (width : Nat) (used : Nat) : List Cluster → List Text
  | [] => [[]]
  | k :: rest =>
    if width < used + k.columns then
      match chopFrom width k.columns rest with
      | piece :: pieces => [] :: (k.text ++ piece) :: pieces
      | [] => [[], k.text]
    else
      match chopFrom width (used + k.columns) rest with
      | piece :: pieces => (k.text ++ piece) :: pieces
      | [] => [k.text]

def chop (width : Nat) (text : Text) : List Text := chopFrom width 0 (Cluster.ofText text)

def dropBlankEnd (text : Text) : Text := (text.reverse.dropWhile isBlank).reverse

/-- Words, and pieces of words that fit on no line, each with whether a line begins with it; `used`
columns of the line are taken. -/
def place (width : Nat) (used : Nat) : List Text → List (Bool × Text)
  | [] => []
  | word :: rest =>
    let core := columns (dropBlankEnd word)
    if used + core ≤ width then (false, word) :: place width (used + columns word) rest
    else if width < core then
      let pieces := chop width word
      pieces.map (fun p => (true, p)) ++ place width (columns (pieces.getLastD [])) rest
    else (true, word) :: place width (columns word) rest

/-- The lines that placed words make. -/
def linesOf : List (Bool × Text) → List Text
  | [] => [[]]
  | (begins, word) :: rest =>
    match linesOf rest with
    | line :: lines => if begins then [] :: (word ++ line) :: lines else (word ++ line) :: lines
    | [] => [word]

/-- Cuts blanks off at the end as far as there are more characters than columns. -/
def cutEnd (width : Nat) (line : Text) : Text :=
  let excess := line.length - width
  let blanks := (line.reverse.takeWhile isBlank).length
  line.take (line.length - min excess blanks)

/-- As much of a line as fits; a blank takes the place of half a character. -/
def crop (width : Nat) : List Cluster → Text
  | [] => []
  | k :: rest =>
    if k.columns ≤ width then k.text ++ crop (width - k.columns) rest
    else List.replicate width ' '

/-- Blanks in place of the tabs between parts, up to the next column that eight divides. -/
def expandTabs (used : Nat) : List Text → Text
  | [] => []
  | [part] => part
  | part :: rest =>
    let n := used + columns (part ++ [' '])
    let more := (8 - n % 8) % 8
    part ++ ' ' :: List.replicate more ' ' ++ expandTabs (n + more) rest

/-- The lines that one line of text takes. -/
def wrapLine (width : Nat) (line : Text) : List Text :=
  let line := expandTabs 0 (line.splitOn '\t')
  let placed := place width 0 (words line)
  let lines := if placed.isEmpty then [line] else match linesOf placed with
    | [] :: rest@(_ :: _) => rest
    | lines => lines
  lines.map fun l =>
    let l := cutEnd width l
    if width < columns l then crop width (Cluster.ofText l) else l

/-- The characters that would move a terminal's cursor or ring its bell, which are never shown. -/
def isDropped (c : Char) : Bool := ['\x07', '\x08', '\x0b', '\x0c', '\r'].contains c

/-- The lines of text on a screen. -/
def wrap (width : Nat) (text : Text) : List Text :=
  ((text.filter (!isDropped ·)).splitOn '\n').flatMap (wrapLine width)

end QueryTemplate.Text
