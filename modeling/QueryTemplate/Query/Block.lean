import QueryTemplate.Text.Match

/-! Conditional blocks: braced stretches that vanish if they hold the omission token. -/
namespace QueryTemplate

/-- What is written for no value. -/
def omissionToken : Text := ['N', 'U', 'L', 'L']

/-- A braced stretch of a text without a brace inside. -/
structure Block where
  content : Text
  start : Nat
  stop : Nat
  elided : Bool
deriving DecidableEq, Repr

namespace Block

def isBrace (c : Char) : Bool := c == '{' || c == '}'

/-- The length of the block at the head of a text: up to the next brace, if that closes it. -/
def length? : Text → Option Nat
  | '{' :: rest =>
    let content := rest.takeWhile (!isBrace ·)
    if rest[content.length]? = some '}' then some (content.length + 2) else none
  | _ => none

def matcher : Matcher := fun text => (length? text).toList

/-- The text between the braces of a block. -/
def contentOf (block : Text) : Text := (block.drop 1).dropLast

def ofSpan (omission text : Text) (span : Span) : Block :=
  let content := contentOf (span.of text)
  ⟨content, span.start, span.stop, omission.occursIn content⟩

/-- The blocks of a text, from left to right. -/
def find (omission text : Text) : List Block := (matcher.spans text).map (ofSpan omission text)

/-- What is left of a block: its content, or nothing if that holds the omission token. -/
def keep (omission block : Text) : Text :=
  let content := contentOf block
  if omission.occursIn content then [] else content

/-- Drops or unwraps the blocks of a text, then every brace that is left. -/
def resolve (omission text : Text) : Text :=
  (matcher.replace (keep omission) text).filter (!isBrace ·)

end Block
end QueryTemplate
