import FormFill.Json
import FormFill.Number.Numeral
import FormFill.Text.Quoted
import FormFill.Text.Split

namespace FormFill.Json

/-- A character inside a JSON string; only quotes, backslashes and controls are escaped. -/
def stringChar (c : Char) : List Char :=
  if c = '"' ∨ c = '\\' then ['\\', c]
  else if c = '\n' then ['\\', 'n']
  else if c = '\r' then ['\\', 'r']
  else if c = '\t' then ['\\', 't']
  else if c = '\x08' then ['\\', 'b']
  else if c = '\x0c' then ['\\', 'f']
  else if c.toNat < 0x20 then '\\' :: 'u' :: Text.hexDigits 4 c.toNat
  else [c]

def stringText (s : String) : List Char :=
  '"' :: s.toList.flatMap stringChar ++ ['"']

def wordText (value : Bool) : List Char :=
  if value then ['t', 'r', 'u', 'e'] else ['f', 'a', 'l', 's', 'e']

mutual

/-- JSON text without any blanks. -/
def compact : Json → List Char
  | .null => ['n', 'u', 'l', 'l']
  | .bool value => wordText value
  | .int value => intText value
  | .float value => value.text Double.jsonSpelling
  | .str text => stringText text
  | .arr items => '[' :: Text.joinWith [','] (compactItems items) ++ [']']
  | .obj members => '{' :: Text.joinWith [','] (compactMembers members) ++ ['}']

def compactItems : List Json → List (List Char)
  | [] => []
  | item :: items => compact item :: compactItems items

def compactMembers : List (String × Json) → List (List Char)
  | [] => []
  | (key, value) :: members => (stringText key ++ ':' :: compact value) :: compactMembers members

end

mutual

/-- The text of a value shown inside other text: `None`, `True`, quoted strings, spaced lists. -/
def shown : Json → List Char
  | .null => ['N', 'o', 'n', 'e']
  | .bool value => if value then ['T', 'r', 'u', 'e'] else ['F', 'a', 'l', 's', 'e']
  | .int value => intText value
  | .float value => value.text Double.plainSpelling
  | .str text => Text.quoted text.toList
  | .arr items => '[' :: Text.joinWith [',', ' '] (shownItems items) ++ [']']
  | .obj members => '{' :: Text.joinWith [',', ' '] (shownMembers members) ++ ['}']

def shownItems : List Json → List (List Char)
  | [] => []
  | item :: items => shown item :: shownItems items

def shownMembers : List (String × Json) → List (List Char)
  | [] => []
  | (key, value) :: members =>
    (Text.quoted key.toList ++ ':' :: ' ' :: shown value) :: shownMembers members

end

mutual

/-- Whether all whole numbers in a value can be shown. -/
def isShowable : Json → Bool
  | .int value => isShowableInt value
  | .arr items => itemsShowable items
  | .obj members => membersShowable members
  | _ => true

def itemsShowable : List Json → Bool
  | [] => true
  | item :: items => isShowable item && itemsShowable items

def membersShowable : List (String × Json) → Bool
  | [] => true
  | (_, value) :: members => isShowable value && membersShowable members

end

/-- A string as it is, any other value as it is shown. -/
def plain : Json → List Char
  | .str text => text.toList
  | other => shown other

end FormFill.Json
