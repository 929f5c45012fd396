import FormFill.Text.Case
import FormFill.Text.Digit
import FormFill.Text.Quoted
import FormFill.Text.Split

namespace FormFill

/-- Why the netloc of an address cannot be taken out of it. -/
inductive AddressFault where
  | misplacedBrackets
  | badFutureAddress
  | bracketedIPv4
  | badAddress (host : String)
  | hiddenDelimiter (netloc : String)
deriving DecidableEq, Repr

def AddressFault.message : AddressFault → String
  | .misplacedBrackets => "Invalid IPv6 URL"
  | .badFutureAddress => "IPvFuture address is invalid"
  | .bracketedIPv4 => "An IPv4 address cannot be in brackets"
  | .badAddress host =>
    s!"{String.ofList (Text.quoted host.toList)} does not appear to be an IPv4 or IPv6 address"
  | .hiddenDelimiter netloc =>
    s!"netloc '{netloc}' contains invalid characters under NFKC normalization"

namespace Address

/-- Letters, digits and signs that the name of a scheme is made of. -/
def isSchemeChar (c : Char) : Bool :=
  c.isAlphanum || c == '+' || c == '-' || c == '.'

/-- The scheme in lower case and what follows its colon; no scheme if the text before the first
    colon is not the name of one. -/
def splitScheme (url : List Char) : List Char × List Char :=
  let name := url.takeWhile (· != ':')
  match url.dropWhile (· != ':'), name with
  | _ :: rest, first :: _ =>
    if first.isAlpha && name.all isSchemeChar then (Text.lower name, rest) else ([], url)
  | _, _ => ([], url)

def isNetlocEnd (c : Char) : Bool :=
  c == '/' || c == '?' || c == '#'

/-- The netloc: what stands between two slashes and the next delimiter. -/
def netlocOf : List Char → List Char
  | '/' :: '/' :: rest => rest.takeWhile (!isNetlocEnd ·)
  | _ => []

/-- A part of an IPv4 address: one to three digits for a number up to 255, without a leading zero. -/
def isOctet (part : List Char) : Bool :=
  part ≠ [] && part.all Char.isDigit && part.length ≤ 3 && Text.ofDigits part ≤ 255 &&
    (part == ['0'] || part.head? != some '0')

def isIPv4 (host : List Char) : Bool :=
  let parts := Text.splitOnChar '.' host
  parts.length == 4 && parts.all isOctet

def isHexGroup (part : List Char) : Bool :=
  part ≠ [] && part.length ≤ 4 && part.all fun c => (Text.hexValue? c).isSome

/-- Sixteen-bit groups with at most one gap of one or more zero groups. An IPv4 address may stand for
    the last two groups, and a scope may follow a percent sign. -/
def isIPv6 (host : List Char) : Bool :=
  let address := host.takeWhile (· != '%')
  let scope := host.dropWhile (· != '%')
  let scopeOk :=
    match scope with
    | [] => true
    | _ :: name => name ≠ [] && !name.contains '%'
  let parts := Text.splitOnChar ':' address
  let parts :=
    match parts.getLast? with
    | some last =>
      if last.contains '.' then
        if isIPv4 last then parts.dropLast ++ [['0'], ['0']] else [['.']]
      else parts
    | none => parts
  let inner := parts.tail.dropLast
  let gaps := inner.countP (· == [])
  let first := parts.headD []
  let last := (parts.getLast?).getD []
  let groups := parts.filter (· ≠ [])
  scopeOk && address ≠ [] && 3 ≤ parts.length && parts.length ≤ 9 && groups.all isHexGroup &&
    if gaps = 0 then parts.length == 8 && first ≠ [] && last ≠ []
    else
      gaps == 1 &&
      (first ≠ [] || (inner.head?.getD ['0']) == []) &&
      (last ≠ [] || (inner.getLast?.getD ['0']) == []) &&
      groups.length ≤ 7

/-- An address of a future kind: `v`, a hexadecimal version, a dot and something more. -/
def isFutureAddress (host : List Char) : Bool :=
  let rest := host.drop 1
  let version := rest.takeWhile fun c => (Text.hexValue? c).isSome
  match rest.drop version.length with
  | '.' :: c :: more => version ≠ [] && (c :: more).all (· != '\n')
  | _ => false

/-- What stands after the last at sign, which ends the name of a user. -/
def afterUser (netloc : List Char) : List Char :=
  (netloc.reverse.takeWhile (· != '@')).reverse

/-- The host of a netloc: what is in the first brackets or, without any, before the first colon.
    Nothing may stand before the brackets, and only a colon right after them. This is the strict rule of late
    releases of the library that takes addresses apart; the program also runs with earlier ones, which take
    what is in the first brackets wherever these stand, or do not check it. -/
def hostOf (netloc : List Char) : Except AddressFault (List Char) :=
  match (afterUser netloc).span (· != '[') with
  | (before, []) => .ok (before.takeWhile (· != ':'))
  | (before, _ :: bracketed) =>
    let (host, rest) := bracketed.span (· != ']')
    match before, rest with
    | [], [] | [], [_] | [], _ :: ':' :: _ => .ok host
    | _, _ => .error .misplacedBrackets

/-- Checks the host of a netloc that has brackets. -/
def checkHost (host : List Char) : Except AddressFault Unit :=
  if host.head? = some 'v' then
    if isFutureAddress host then .ok () else .error .badFutureAddress
  else if isIPv4 host then .error .bracketedIPv4
  else if isIPv6 host then .ok ()
  else .error (.badAddress (String.ofList host))

/-- Both brackets occur in a netloc or none, and the host of one with brackets is an address, even
    where it does not stand in them. -/
def checkBrackets (netloc : List Char) : Except AddressFault Unit := do
  match netloc.contains '[', netloc.contains ']' with
  | false, false => .ok ()
  | true, true => checkHost (← hostOf netloc)
  | _, _ => .error .misplacedBrackets

/-- Characters whose compatibility form holds a delimiter of addresses. -/
def hiddenDelimiters : List Nat :=
  [0x2047, 0x2048, 0x2049, 0x2100, 0x2101, 0x2105, 0x2106, 0x2A74, 0xFE13, 0xFE16, 0xFE55, 0xFE56,
   0xFE5F, 0xFE6B, 0xFF03, 0xFF0F, 0xFF1A, 0xFF1F, 0xFF20]

def checkNetloc (netloc : List Char) : Except AddressFault Unit := do
  checkBrackets netloc
  if netloc.any (·.toNat ∈ hiddenDelimiters) then
    throw (.hiddenDelimiter (String.ofList netloc))

/-- The scheme and the netloc of an address, which tell whose page it is. Controls and spaces before
    it, and tabs and line ends in it, do not count. -/
def origin (url : String) : Except AddressFault String := do
  let url := (url.toList.dropWhile (·.toNat ≤ 0x20)).filter fun c =>
    c ≠ '\t' ∧ c ≠ '\r' ∧ c ≠ '\n'
  let (scheme, rest) := splitScheme url
  let netloc := netlocOf rest
  checkNetloc netloc
  return String.ofList (scheme ++ [':', '/', '/'] ++ netloc)

end Address
end FormFill
