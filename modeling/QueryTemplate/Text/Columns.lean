import QueryTemplate.Text.Basic
import QueryTemplate.Text.ColumnTable

/-! How many columns of a terminal text takes. -/
namespace QueryTemplate.Text

def charColumns (c : Char) : Nat :=
  if 0x20 ≤ c.toNat ∧ c.toNat < 0x7f then 1
  else if Ranges.has noColumnRanges c.toNat then 0
  else if Ranges.has twoColumnRanges c.toNat then 2
  else 1

/-- Joins the character after it to the picture before it. -/
def joiner : Char := '\u200d'

/-- Makes a picture of the sign before it. -/
def pictureSelector : Char := '\ufe0f'

def isWidened (c : Char) : Bool := Ranges.has widenedRanges c.toNat

/-- The columns of the rest of a text, after the last character that took any. A character that is
joined takes none. -/
def columnsFrom (joined : Bool) (last : Option Char) : Text → Nat
  | [] => 0
  | c :: rest =>
    if joined then columnsFrom false last rest
    else if c = joiner then columnsFrom true last rest
    else if c = pictureSelector then
      (if last.any isWidened then 1 else 0) + columnsFrom false none rest
    else if charColumns c = 0 then columnsFrom false last rest
    else charColumns c + columnsFrom false (some c) rest

def columns (text : Text) : Nat := columnsFrom false none text

/-- A character with what is joined to it, which lines are not broken within. -/
structure Cluster where
  text : Text
  columns : Nat
deriving DecidableEq, Repr

namespace Cluster

/-- What comes at the front of a text as a part of the cluster before it, and the clusters after
that; `last` is the last character that took columns. -/
def after (joined : Bool) (last : Option Char) : Text → Cluster × List Cluster
  | [] => (⟨[], 0⟩, [])
  | c :: rest =>
    let own (n : Nat) (r : Cluster × List Cluster) : Cluster × List Cluster :=
      (⟨c :: r.1.text, n + r.1.columns⟩, r.2)
    if joined then own 0 (after false last rest)
    else if c = joiner then own 0 (after true last rest)
    else if c = pictureSelector ∧ last.any isWidened then own 1 (after false none rest)
    else if charColumns c = 0 then own 0 (after false last rest)
    else
      let r := after false (some c) rest
      (⟨[], 0⟩, ⟨c :: r.1.text, charColumns c + r.1.columns⟩ :: r.2)

/-- The clusters of a text. -/
def ofText : Text → List Cluster
  | [] => []
  | c :: rest =>
    let r := after false (if charColumns c = 0 then none else some c) rest
    ⟨c :: r.1.text, charColumns c + r.1.columns⟩ :: r.2

end Cluster
end QueryTemplate.Text
