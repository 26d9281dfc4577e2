import QueryTemplate.Template.Placeholder

/-! A template cut at its placeholders. -/
namespace QueryTemplate

/-- A stretch of literal text, or a placeholder. -/
inductive Segment where
  | text (t : Text)
  | placeholder (p : Placeholder)
deriving DecidableEq, Repr

namespace Segment

/-- The segments of a template from a cursor on. -/
def splitFrom (template : Text) (cursor : Int) : List Placeholder → List Segment
  | [] =>
    if cursor < template.length then [.text (template.slice cursor template.length)] else []
  | p :: rest =>
    (if cursor < p.start then [.text (template.slice cursor p.start)] else []) ++
      .placeholder p :: splitFrom template p.stop rest

def split (template : Text) (placeholders : List Placeholder) : List Segment :=
  splitFrom template 0 placeholders

/-- The text of the segments, or the place of the first that is still a placeholder. -/
def joinFrom (i : Nat) : List Segment → Except Nat Text
  | [] => .ok []
  | .text t :: rest => (t ++ ·) <$> joinFrom (i + 1) rest
  | .placeholder _ :: _ => .error i

def join (segments : List Segment) : Except Nat Text := joinFrom 0 segments

end Segment
end QueryTemplate
