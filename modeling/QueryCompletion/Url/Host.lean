import QueryCompletion.Url.Domain
import QueryCompletion.Url.Reference

/-!
The host of a URL and the port behind it. A host is a name, with percent escapes, or an address in
brackets. A name is brought to lower case, its escapes to upper case and its labels in other scripts
to Punycode; of an address the zone keeps its case.
-/

namespace QueryCompletion.Url

/-- Why a host cannot be used. -/
inductive HostError where
  | malformed (text : Text)
  | badCharacter (host : Text) (character : Char)
  | badEscape (host escape : Text)
  | badLabel (label : Text)
deriving DecidableEq, Repr

def HostError.message : HostError → String
  | .malformed text => String.ofList (Text.quoted text) ++ " is not a valid host or port"
  | .badCharacter host character =>
    "Host " ++ String.ofList (Text.quoted host) ++ " contains invalid character " ++
      String.ofList (Text.quoted [character])
  | .badEscape host escape =>
    "Host " ++ String.ofList (Text.quoted host) ++ " contains invalid percent-encoded control character " ++
      String.ofList (Text.quoted escape)
  | .badLabel label => "Name '" ++ String.ofList label ++ "' is not a valid IDNA label"

/-- Escapes in capital letters, and whether every percent sign starts an escape. -/
def normalizeEscapes : Text → Text × Bool
  | '%' :: a :: b :: rest =>
    if isHex a && isHex b then
      let (text, complete) := normalizeEscapes rest
      ('%' :: a.toUpper :: b.toUpper :: text, complete)
    else
      let (text, _) := normalizeEscapes (a :: b :: rest)
      ('%' :: text, false)
  | c :: rest =>
    let (text, complete) := normalizeEscapes rest
    (c :: text, complete && c != '%')
  | [] => ([], true)

/-- A component with what is not allowed in it encoded. Escapes that are already there are kept if
all percent signs start one. -/
def encodeComponent (allowed : Char → Bool) (component : Text) : Text :=
  let (text, complete) := normalizeEscapes component
  encode (fun c => allowed c || (complete && c == '%')) text

/-- Whether a host name holds no delimiters and only complete escapes. -/
def isRegisteredName : Text → Bool
  | [] => true
  | '%' :: a :: b :: rest => isHex a && isHex b && isRegisteredName rest
  | c :: rest => !(['[', ']', '%', ':', '/', '?', '#'].contains c) && isRegisteredName rest

/-- Whether a text has the form of four short numbers with points between them. -/
def looksLikeIpv4 (text : Text) : Bool :=
  let numbers := Text.pieces '.' text
  numbers.length == 4 && numbers.all fun number =>
    !number.isEmpty && number.length ≤ 3 && number.all fun c => '0' ≤ c && c ≤ '9'

/-- Whether a text has the form of groups between colons; the last two groups may be written as four
numbers, whatever their values. -/
def looksLikeIpv6 (text : Text) : Bool :=
  let groups := Text.pieces ':' text
  let last := groups.getLast?.getD []
  areIpv6Groups (if looksLikeIpv4 last then groups.dropLast ++ [['0'], ['0']] else groups)

/-- Whether a zone is one or more unreserved characters or escapes. -/
def isZone (zone : Text) : Bool :=
  !zone.isEmpty && zone.all (fun c => isUnreserved c || c == '%') && (normalizeEscapes zone).2

/-- Whether a host in brackets has the form of an address with or without a zone. -/
def looksLikeAddress (inside : Text) : Bool :=
  match Text.cut '%' inside with
  | (address, none) => looksLikeIpv6 address
  | (address, some zone) => looksLikeIpv6 address && isZone zone

/-- A host and the digits behind its colon. One line feed may follow them. -/
def splitHost? (text : Text) : Option (Text × Option Text) :=
  let (host, rest) :=
    match text with
    | '[' :: _ =>
      let inside := text.takeWhile (· ≠ ']')
      (inside ++ [']'], text.drop (inside.length + 1))
    | _ => text.span (· ≠ ':')
  let hostFine :=
    match host with
    | '[' :: inside => host.length ≤ text.length && looksLikeAddress inside.dropLast
    | _ => isRegisteredName host
  let ended := if rest.getLast? == some '\n' then rest.dropLast else rest
  if !hostFine then none
  else
    match ended with
    | [] => some (host, none)
    | ':' :: digits =>
      let significant := digits.dropWhile (· == '0')
      if digits.all (fun c => '0' ≤ c && c ≤ '9') && significant.length ≤ 5 then some (host, some digits)
      else none
    | _ => none

/-- The first escape of a control character in a host. -/
def controlEscape? : Text → Option Text
  | '%' :: a :: b :: rest =>
    let high := a == '0' || a == '1' || (a == '7' && (b == 'f' || b == 'F'))
    if high && isHex b then some ['%', a, b] else controlEscape? (a :: b :: rest)
  | _ :: rest => controlEscape? rest
  | [] => none

/-- Checks a host for control characters and blanks, also behind escapes. -/
def checkHost (host : Text) : Except HostError Unit :=
  match host.find? fun c => c.toNat ≤ 0x20 || c.toNat = 0x7F, controlEscape? host with
  | some c, _ => .error (.badCharacter host c)
  | none, some escape => .error (.badEscape host escape)
  | none, none => .ok ()

/-- An address in brackets in lower case but for its zone, which follows a single percent sign. -/
def normalizeAddress (host : Text) : Text :=
  match Text.cut '%' host with
  | (_, none) => lowerAscii host
  | (address, some rest) =>
    let zone := rest.dropLast
    let named := if ['2', '5'].isPrefixOf zone && zone.length ≠ 2 then zone.drop 2 else zone
    lowerAscii address ++ '%' :: encodeComponent isUnreserved named ++ [']']

def normalizeLabel (label : Text) : Except HostError Text :=
  if label.all (·.toNat < 0x80) then .ok (lowerAscii label)
  else
    match encodeLabel? (Text.lower label) with
    | some sent => .ok sent
    | none => .error (.badLabel label)

/-- The host as it is requested. -/
def normalizeHost (host : Text) : Except HostError Text := do
  if host.head? == some '[' then return normalizeAddress host
  else
    let labels ← (Text.pieces '.' host).mapM normalizeLabel
    return (normalizeEscapes (Text.joinWith ['.'] labels)).1

end QueryCompletion.Url
