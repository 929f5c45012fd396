namespace FormFill.Text

/-- The pieces between the characters of a class, one more than there are such characters. -/
def splitAtAny (p : Char → Bool) : List Char → List (List Char)
  | [] => [[]]
  | c :: rest =>
    if p c then [] :: splitAtAny p rest
    else
      match splitAtAny p rest with
      | [] => [[c]]
      | piece :: pieces => (c :: piece) :: pieces

def splitOnChar (separator : Char) (s : List Char) : List (List Char) :=
  splitAtAny (· == separator) s

/-- The pieces one after the other with a separator between neighbours. -/
def joinWith (separator : List Char) : List (List Char) → List Char
  | [] => []
  | [piece] => piece
  | piece :: pieces => piece ++ separator ++ joinWith separator pieces

/-- Every line end, be it `\r\n`, `\r` or `\n`, as `\n`. -/
def unifyLineEnds : List Char → List Char
  | [] => []
  | '\r' :: '\n' :: rest => '\n' :: unifyLineEnds rest
  | c :: rest => (if c = '\r' then '\n' else c) :: unifyLineEnds rest

end FormFill.Text
