import QueryTemplate.Log.Record
import QueryTemplate.Terminal.Screen

/-! Log records in columns. -/
namespace QueryTemplate
namespace LogLayout

/-- Month, day and short year, then the time of day, out of a time that begins with the year. -/
def shownTime (time : String) : Text :=
  let t := time.toList
  let part (start size : Nat) := (t.drop start).take size
  ['['] ++ part 5 2 ++ ['/'] ++ part 8 2 ++ ['/'] ++ part 2 2 ++ [' '] ++ part 11 8 ++ [']']

/-- Time, level and message next to each other; the message is broken into lines within its
column. -/
def inColumns (time : String) (level : Level) (text : String) : String :=
  let front := shownTime time ++ [' '] ++ (LogRecord.padRight 8 level.name).toList ++ [' ']
  let size := Screen.width - front.length
  let lines := (Text.wrap size text.toList).map (Screen.padRight size)
  let fronts := front :: List.replicate (lines.length - 1) (Screen.blanks front.length)
  String.ofList (['\n'].intercalate (List.zipWith (· ++ ·) fronts lines))

end LogLayout
end QueryTemplate
