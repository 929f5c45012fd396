import FormFill.Json
import FormFill.Number.Numeral
import FormFill.Text.Half

namespace FormFill.Json

/-- What a JSON text fails at. -/
inductive Fault where
  | byteOrderMark
  | value
  | name
  | colon
  | comma
  | unterminated
  | control
  | escape
  | codeEscape
  | oversized (fault : NumeralFault)
  | extra
deriving DecidableEq, Repr

def Fault.message : Fault → String
  | .byteOrderMark => "Unexpected UTF-8 BOM (decode using utf-8-sig)"
  | .value => "Expecting value"
  | .name => "Expecting property name enclosed in double quotes"
  | .colon => "Expecting ':' delimiter"
  | .comma => "Expecting ',' delimiter"
  | .unterminated => "Unterminated string starting at"
  | .control => "Invalid control character at"
  | .escape => "Invalid \\escape"
  | .codeEscape => "Invalid \\uXXXX escape"
  | .oversized fault => fault.message
  | .extra => "Extra data"

/-- A fault with the text that begins where it was found. -/
structure Stop where
  fault : Fault
  rest : List Char

def skipBlanks (s : List Char) : List Char :=
  s.dropWhile fun c => c = ' ' ∨ c = '\t' ∨ c = '\n' ∨ c = '\r'

def hexNumber? (s : List Char) : Option Nat :=
  s.foldlM (fun n c => (Text.hexValue? c).map (16 * n + ·)) 0

/-- The code unit written by the four characters after `\u`; the text must go on behind them. -/
def codeUnit (s : List Char) : Except Stop (Nat × List Char) :=
  match s with
  | _ :: 'u' :: a :: b :: c :: d :: next :: rest =>
    match hexNumber? [a, b, c, d] with
    | some unit => .ok (unit, next :: rest)
    | none => .error ⟨.codeEscape, s.drop 1⟩
  | _ => .error ⟨.codeEscape, s.drop 1⟩

/-- A code escape, joined with the next one if the two are halves of one character. -/
def codeEscape (halves : Text.Halves) (s : List Char) : Except Stop (Char × List Char) := do
  let (unit, rest) ← codeUnit s
  if 0xD800 ≤ unit ∧ unit < 0xDC00 then
    match rest with
    | '\\' :: 'u' :: _ :: _ :: _ :: _ :: _ :: _ =>
      let (low, after) ← codeUnit rest
      if 0xDC00 ≤ low ∧ low < 0xE000 then
        .ok (Char.ofNat (0x10000 + (unit - 0xD800) * 0x400 + (low - 0xDC00)), after)
      else .ok (halves.stand unit, rest)
    | _ => .ok (halves.stand unit, rest)
  else if 0xDC00 ≤ unit ∧ unit < 0xE000 then .ok (halves.stand unit, rest)
  else .ok (Char.ofNat unit, rest)

def simpleEscape? : Char → Option Char
  | '"' => some '"'
  | '\\' => some '\\'
  | '/' => some '/'
  | 'b' => some '\x08'
  | 'f' => some '\x0c'
  | 'n' => some '\n'
  | 'r' => some '\r'
  | 't' => some '\t'
  | _ => none

/-- The characters of a string up to its closing quote; `start` is the text from its opening one. -/
def readString (halves : Text.Halves) (start : List Char) : Nat → List Char → Except Stop (List Char × List Char)
  | 0, _ => .error ⟨.unterminated, start⟩
  | fuel + 1, s =>
    match s with
    | [] => .error ⟨.unterminated, start⟩
    | '"' :: rest => .ok ([], rest)
    | '\\' :: [] => .error ⟨.unterminated, start⟩
    | '\\' :: 'u' :: _ => do
      let (c, rest) ← codeEscape halves s
      let (text, rest) ← readString halves start fuel rest
      .ok (c :: text, rest)
    | '\\' :: c :: rest =>
      match simpleEscape? c with
      | some c => do
        let (text, rest) ← readString halves start fuel rest
        .ok (c :: text, rest)
      | none => .error ⟨.escape, s⟩
    | c :: rest =>
      if c.toNat < 0x20 then .error ⟨.control, s⟩
      else do
        let (text, rest) ← readString halves start fuel rest
        .ok (c :: text, rest)

/-- The digits of an exponent with their sign, if the text goes on with one. -/
def exponent? (s : List Char) : Option (Int × List Char) :=
  match s with
  | 'e' :: rest | 'E' :: rest =>
    let (negative, rest) :=
      match rest with
      | '-' :: rest => (true, rest)
      | '+' :: rest => (false, rest)
      | _ => (false, rest)
    let digits := rest.takeWhile Char.isDigit
    if digits.isEmpty then none
    else
      let size : Int := Text.ofDigits digits
      some (if negative then -size else size, rest.drop digits.length)
  | _ => none

/-- A number: whole unless a fraction or an exponent follows. -/
def readNumber (s : List Char) : Except Stop (Json × List Char) :=
  let (negative, rest) :=
    match s with
    | '-' :: rest => (true, rest)
    | _ => (false, s)
  let digits :=
    match rest with
    | '0' :: _ => ['0']
    | _ => rest.takeWhile Char.isDigit
  let rest := rest.drop digits.length
  let fraction :=
    match rest with
    | '.' :: rest => rest.takeWhile Char.isDigit
    | _ => []
  let rest := if fraction.isEmpty then rest else rest.drop (fraction.length + 1)
  if digits.isEmpty then .error ⟨.value, s⟩
  else
    let double (scale : Int) : Json :=
      .float (.ofDecimal negative (Text.ofDigits (digits ++ fraction)) (scale - fraction.length))
    match exponent? rest with
    | some (scale, rest) => .ok (double scale, rest)
    | none =>
      if fraction.isEmpty then
        match readDigits digits with
        | .ok size => .ok (.int (Text.withSign negative size), rest)
        | .error fault => .error ⟨.oversized fault, s⟩
      else .ok (double 0, rest)

def words : List (String × Json) :=
  [("null", .null), ("true", .bool true), ("false", .bool false), ("NaN", .float .nan),
   ("Infinity", .float (.infinite false)), ("-Infinity", .float (.infinite true))]

def readWordOrNumber (s : List Char) : Except Stop (Json × List Char) :=
  match words.find? fun (word, _) => word.toList.isPrefixOf s with
  | some (word, value) => .ok (value, s.drop word.length)
  | none => readNumber s

section

variable (halves : Text.Halves)

mutual

def readValue : Nat → List Char → Except Stop (Json × List Char)
  | 0, s => .error ⟨.value, s⟩
  | fuel + 1, s =>
    match s with
    | '"' :: rest => do
      let (text, rest) ← readString halves s s.length rest
      .ok (.str (String.ofList text), rest)
    | '{' :: rest =>
      match skipBlanks rest with
      | '}' :: rest => .ok (.obj [], rest)
      | rest => readMembers fuel [] rest
    | '[' :: rest =>
      match skipBlanks rest with
      | ']' :: rest => .ok (.arr [], rest)
      | rest => readItems fuel [] rest
    | _ => readWordOrNumber s

/-- The rest of a list, after the items already read in reverse. -/
def readItems : Nat → List Json → List Char → Except Stop (Json × List Char)
  | 0, _, s => .error ⟨.value, s⟩
  | fuel + 1, items, s => do
    let (item, rest) ← readValue fuel s
    match skipBlanks rest with
    | ']' :: rest => .ok (.arr (item :: items).reverse, rest)
    | ',' :: rest => readItems fuel (item :: items) (skipBlanks rest)
    | rest => .error ⟨.comma, rest⟩

/-- The rest of an object; of two values under one key the later one counts. -/
def readMembers : Nat → Members → List Char → Except Stop (Json × List Char)
  | 0, _, s => .error ⟨.name, s⟩
  | fuel + 1, members, s =>
    match s with
    | '"' :: rest => do
      let (key, rest) ← readString halves s s.length rest
      match skipBlanks rest with
      | ':' :: rest =>
        let (value, rest) ← readValue fuel (skipBlanks rest)
        let members := Members.insert members (String.ofList key) value
        match skipBlanks rest with
        | '}' :: rest => .ok (.obj members, rest)
        | ',' :: rest => readMembers fuel members (skipBlanks rest)
        | rest => .error ⟨.comma, rest⟩
      | rest => .error ⟨.colon, rest⟩
    | _ => .error ⟨.name, s⟩

end

end

/-- A fault and the number of characters before it in the text. -/
structure ReadError where
  fault : Fault
  text : List Char
  position : Nat

/-- The fault with its line and its column, both counted from one, and its place in the text. -/
def ReadError.message (e : ReadError) : String :=
  let before := e.text.take e.position
  let line := before.count '\n' + 1
  let column := (before.reverse.takeWhile (· != '\n')).length + 1
  s!"{e.fault.message}: line {line} column {column} (char {e.position})"

/-- Reads one value that fills the whole text. -/
def read (halves : Text.Halves) (text : List Char) : Except ReadError Json :=
  let at_ (stop : Stop) : ReadError := ⟨stop.fault, text, text.length - stop.rest.length⟩
  match text with
  | '\uFEFF' :: _ => .error ⟨.byteOrderMark, text, 0⟩
  | _ =>
    match readValue halves (2 * text.length + 2) (skipBlanks text) with
    | .error stop => .error (at_ stop)
    | .ok (value, rest) =>
      match skipBlanks rest with
      | [] => .ok value
      | rest => .error (at_ ⟨.extra, rest⟩)

end FormFill.Json
