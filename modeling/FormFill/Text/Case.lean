import FormFill.Text.Case.Table

namespace FormFill.Text

def shifted? (runs : List CaseRun) (c : Char) : Option Char :=
  (runs.find? (·.covers c.toNat)).map fun run => Char.ofNat ((c.toNat : Int) + run.shift).toNat

/-- The lower case of a character on its own; one letter becomes two. -/
def lowerChar (c : Char) : List Char :=
  if c = 'İ' then ['i', '\u0307'] else [(shifted? lowerRuns c).getD c]

def upperChar (c : Char) : List Char :=
  match upperExpansions.find? (·.1 = c.toNat) with
  | some (_, expansion) => expansion.map Char.ofNat
  | none => [(shifted? upperRuns c).getD c]

/-- The nearest character that decides about case is a cased letter. -/
def nextIsCased (s : List Char) : Bool :=
  match s.dropWhile fun c => inRanges caseIgnorableRanges c.toNat with
  | [] => false
  | c :: _ => inRanges casedRanges c.toNat

/-- Lower case of the rest of a text, given what stands before it in reverse: a capital sigma
    between a cased letter and the end of its word takes the final form. -/
def lowerAfter (before : List Char) : List Char → List Char
  | [] => []
  | c :: rest =>
    let image :=
      if c = 'Σ' then [if nextIsCased before && !nextIsCased rest then 'ς' else 'σ']
      else lowerChar c
    image ++ lowerAfter (c :: before) rest

def lower (s : List Char) : List Char :=
  lowerAfter [] s

def upper (s : List Char) : List Char :=
  s.flatMap upperChar

end FormFill.Text
