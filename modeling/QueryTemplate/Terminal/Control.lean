import QueryTemplate.Text.Match

/-! Sequences of characters that steer a terminal. What is written to no terminal has none. -/
namespace QueryTemplate
namespace Control

def escape : Char := '\x1b'

/-- The characters that may stand between the bracket of a sequence and the letter at its end. -/
def isParameter (c : Char) : Bool := c == ';' || c == '?' || c.isDigit

/-- The length of the sequence at the head of a text: the escape character, a bracket, parameters
and a letter. -/
def length? : Text → Option Nat
  | c :: '[' :: rest =>
    let parameters := rest.takeWhile isParameter
    if c = escape ∧ rest[parameters.length]?.any Char.isAlpha then some (parameters.length + 3)
    else none
  | _ => none

def matcher : Matcher := fun text => (length? text).toList

/-- The text without its sequences. -/
def strip (text : Text) : Text := matcher.replace (fun _ => []) text

end Control
end QueryTemplate
