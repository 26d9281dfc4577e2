import QueryTemplate.Text.Basic

/-! Line ends. -/
namespace QueryTemplate.Text

/-- Text with one kind of line end: a carriage return, or one with a line feed, becomes a line
feed. -/
def unifyLines : Text → Text
  | [] => []
  | '\r' :: '\n' :: rest => '\n' :: unifyLines rest
  | '\r' :: rest => '\n' :: unifyLines rest
  | c :: rest => c :: unifyLines rest

end QueryTemplate.Text
