import QueryCompletion.Text.AlphanumericTable
import QueryCompletion.Text.DigitTable
import QueryCompletion.Text.Space
import QueryCompletion.Url.Host

/-!
The target of a web request: scheme and host in lower case, a path, unsafe characters
percent-encoded and the parameters of the request appended to the query.
-/

namespace QueryCompletion.Url

/-- Why no request can be made of a URL. -/
inductive TargetError where
  | noScheme (url : Text)
  | noHost (url : Text)
  | badLabel
  | badHost (error : HostError)
  | unparsable (url : Text)
  | unsplittable (error : SplitError)
  | noAdapter (url : Text)
deriving DecidableEq, Repr

def TargetError.message : TargetError → String
  | .noScheme url =>
    "Invalid URL " ++ String.ofList (Text.quoted url) ++ ": No scheme supplied. Perhaps you meant https://" ++
      String.ofList url ++ "?"
  | .noHost url => "Invalid URL " ++ String.ofList (Text.quoted url) ++ ": No host supplied"
  | .badLabel => "URL has an invalid label."
  | .badHost error => "Failed to parse: " ++ error.message
  | .unparsable url => "Failed to parse: " ++ String.ofList url
  | .unsplittable error => error.message
  | .noAdapter url => "No connection adapters were found for " ++ String.ofList (Text.quoted url)

def isSubDelimiter (c : Char) : Bool :=
  ['!', '$', '&', '\x27', '(', ')', '*', '+', ',', ';', '='].contains c

def isUserChar (c : Char) : Bool := isUnreserved c || isSubDelimiter c || c == ':'

def isPathChar (c : Char) : Bool := isUserChar c || c == '@' || c == '/'

def isQueryChar (c : Char) : Bool := isPathChar c || c == '?'

/-- The path without `.` and `..` segments. -/
def removeDots (path : Text) : Text :=
  let kept := resolveDots [] (Text.pieces '/' path)
  let rooted :=
    if path.head? == some '/' && (kept.head?.map (!·.isEmpty)).getD true then [] :: kept else kept
  let closed :=
    if ['/', '.'].isSuffixOf path || ['/', '.', '.'].isSuffixOf path then rooted ++ [[]] else rooted
  Text.joinWith ['/'] closed

/-- The part of the text behind the last occurrence of a character, and what stands before it. -/
def cutLast (separator : Char) (text : Text) : Option Text × Text :=
  let tail := (text.reverse.takeWhile (· ≠ separator)).reverse
  if tail.length = text.length then (none, text)
  else (some (text.take (text.length - tail.length - 1)), tail)

def requoted (c : Char) : Bool :=
  isUnreserved c || isSubDelimiter c || ['#', '/', ':', '?', '@', '[', ']'].contains c

def alphanumericRanges : List (Nat × Nat) := Text.ranges Text.alphanumericRows

/-- Letters and numerals of all scripts. -/
def isAlphanumericChar (c : Char) : Bool :=
  isAlphanumeric c || (0x80 ≤ c.toNat && Text.inRanges alphanumericRanges c.toNat)

/-- The value of a hexadecimal digit, for which the decimal digits of all scripts are taken too. -/
def hexDigitValue? (c : Char) : Option Nat :=
  if isHex c then some (if c ≤ '9' then c.toNat - 48 else c.toUpper.toNat - 55) else Text.digitValue? c

/-- Escapes of characters that need none are undone. There is no result if letters that are no
digits stand behind a percent sign. -/
def undoEscapes? : Text → Option Text
  | '%' :: a :: b :: rest =>
    if isAlphanumericChar a && isAlphanumericChar b then
      match hexDigitValue? a, hexDigitValue? b with
      | some high, some low =>
        let c := Char.ofNat (high * 16 + low)
        if isUnreserved c then (undoEscapes? rest).map (c :: ·) else (undoEscapes? (a :: b :: rest)).map ('%' :: ·)
      | _, _ => none
    else (undoEscapes? (a :: b :: rest)).map ('%' :: ·)
  | c :: rest => (undoEscapes? rest).map (c :: ·)
  | [] => some []

/-- A URL with everything encoded that may not stand in one. Percent signs stay if all of them can
start escapes. -/
def requote (url : Text) : Text :=
  match undoEscapes? url with
  | some undone => encode (fun c => requoted c || c == '%') undone
  | none => encode requoted url

/-- The port that digits stand for; zero stands for none. -/
def portOf? (digits : Option Text) : Option Nat :=
  match digits with
  | some (c :: rest) => some ((c :: rest).foldl (fun value c => value * 10 + (c.toNat - 48)) 0)
  | _ => none

/-- The URL that is requested for a URL and its parameters. A URL of another scheme than those of
the web is left as it is. -/
def target (url : Text) (parameters : List (Text × Text)) : Except TargetError Text := do
  let url := url.dropWhile Text.isSpace
  let isWeb := ['h', 't', 't', 'p'].isPrefixOf (lowerAscii (url.take 4))
  if url.contains ':' && !isWeb then return url
  else
    let hasStart := url.head? == some '/' ||
      match Text.cut ':' url with
      | (scheme, some _) =>
        (scheme.head?.map isLetter).getD false &&
          scheme.all fun c => isAlphanumeric c || c == '+' || c == '-'
      | (_, none) => false
    let whole := if hasStart || url.isEmpty then url else ['/', '/'] ++ url
    let (scheme, rest) := splitScheme [] whole
    let normal := scheme.isEmpty || scheme = "http".toList || scheme = "https".toList
    let isEnd := fun (c : Char) => c == '/' || c == '?' || c == '#' || c == '\\'
    let (authority, rest) :=
      match rest with
      | '/' :: '/' :: more => (more.takeWhile (!isEnd ·), more.dropWhile (!isEnd ·))
      | _ => ([], rest)
    let (rest, fragment) := Text.cut '#' rest
    let (path, query) := Text.cut '?' rest
    let (user, hostPort) := cutLast '@' authority
    match splitHost? hostPort with
    | none => .error (.badHost (.malformed hostPort))
    | some (host, digits) =>
      let port := portOf? digits
      (checkHost host).mapError .badHost
      if 65535 < port.getD 0 then .error (.unparsable url)
      else
        let host ← if normal then (normalizeHost host).mapError .badHost else pure host
        if scheme.isEmpty then .error (.noScheme url)
        else if host.isEmpty then .error (.noHost url)
        else
          let foreign := host.any (0x80 ≤ ·.toNat)
          let host ← if foreign then (encodeDomain? host).elim (.error .badLabel) pure else pure host
          if !foreign && (host.head? == some '*' || host.head? == some '.') then .error .badLabel
          else
            let component := fun (allowed : Char → Bool) (text : Text) =>
              if normal then encodeComponent allowed text else text
            let user := component isUserChar (user.getD [])
            let path := component isPathChar (if normal then removeDots path else path)
            let path :=
              if path.isEmpty then ['/'] else if path.head? == some '/' then path else '/' :: path
            let query := component isQueryChar (query.getD [])
            let added := formQuery parameters
            let query :=
              if added.isEmpty then query else if query.isEmpty then added else query ++ '&' :: added
            let authority :=
              (if user.isEmpty then [] else user ++ ['@']) ++ host ++
                (match port with
                  | some (n + 1) => ':' :: Nat.toDigits 10 (n + 1)
                  | _ => [])
            let parts : Parts :=
              ⟨scheme, authority, path, [], query, component isQueryChar (fragment.getD [])⟩
            return requote parts.join

/-- The URL that is requested, if its parts can be told apart and something can carry the
request. -/
def webTarget (url : Text) (parameters : List (Text × Text)) : Except TargetError Text := do
  let target ← target url parameters
  let _ ← (split [] target).mapError TargetError.unsplittable
  let lowered := lowerAscii target
  if "http://".toList.isPrefixOf lowered || "https://".toList.isPrefixOf lowered then return target
  else .error (.noAdapter target)

end QueryCompletion.Url
