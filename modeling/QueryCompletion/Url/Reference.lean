import QueryCompletion.Text.Quoted
import QueryCompletion.Url.Encoding

/-!
Parts of a URL and the resolution of a relative reference against a base URL.
-/

namespace QueryCompletion.Url

/-- Why a URL has no parts. -/
inductive SplitError where
  | unbalancedBrackets
  | badFutureAddress
  | bracketedIpv4
  | notAddress (host : Text)
  | hiddenDelimiter (authority : Text)
deriving DecidableEq, Repr

def SplitError.message : SplitError → String
  | .unbalancedBrackets => "Invalid IPv6 URL"
  | .badFutureAddress => "IPvFuture address is invalid"
  | .bracketedIpv4 => "An IPv4 address cannot be in brackets"
  | .notAddress host =>
    String.ofList (Text.quoted host) ++ " does not appear to be an IPv4 or IPv6 address"
  | .hiddenDelimiter authority =>
    "netloc '" ++ String.ofList authority ++ "' contains invalid characters under NFKC normalization"

structure Parts where
  scheme : Text
  authority : Text
  path : Text
  parameters : Text
  query : Text
  fragment : Text
deriving DecidableEq, Repr

/-- Schemes under which relative references make sense. -/
def relativeSchemes : List String :=
  ["", "ftp", "http", "gopher", "nntp", "imap", "wais", "file", "https", "shttp", "mms", "prospero",
    "rtsp", "rtspu", "sftp", "svn", "svn+ssh", "ws", "wss"]

/-- Schemes with an authority. -/
def authoritySchemes : List String :=
  ["", "ftp", "http", "gopher", "nntp", "telnet", "imap", "wais", "file", "mms", "https", "shttp",
    "snews", "prospero", "rtsp", "rtspu", "rsync", "svn", "svn+ssh", "sftp", "nfs", "git", "git+ssh",
    "ws", "wss"]

/-- Schemes whose last path segment may carry parameters. -/
def parameterSchemes : List String :=
  ["", "ftp", "hdl", "prospero", "http", "imap", "https", "shttp", "rtsp", "rtspu", "sip", "sips",
    "mms", "sftp", "tel"]

def isLetter (c : Char) : Bool := ('a' ≤ c && c ≤ 'z') || ('A' ≤ c && c ≤ 'Z')

def isSchemeChar (c : Char) : Bool := isAlphanumeric c || c == '+' || c == '-' || c == '.'

def lowerAscii (text : Text) : Text := text.map Char.toLower

/-- The scheme of a URL, or the given one, and what follows it. -/
def splitScheme (scheme url : Text) : Text × Text :=
  match Text.cut ':' url with
  | (candidate, some rest) =>
    if (candidate.head?.map isLetter).getD false && candidate.all isSchemeChar then
      (lowerAscii candidate, rest)
    else (scheme, url)
  | (_, none) => (scheme, url)

def isIpv4Octet (octet : Text) : Bool :=
  !octet.isEmpty && octet.length ≤ 3 && octet.all (fun c => '0' ≤ c && c ≤ '9') &&
    !(1 < octet.length && octet.head? == some '0') &&
    octet.foldl (fun value c => value * 10 + (c.toNat - 48)) 0 ≤ 255

def isIpv4 (address : Text) : Bool :=
  let octets := Text.pieces '.' address
  octets.length == 4 && octets.all isIpv4Octet

/-- Whether groups between colons form an address of eight groups; a run of empty groups may stand
once for as many zero groups as are missing. -/
def areIpv6Groups (groups : List Text) : Bool :=
  let inner := (groups.drop 1).dropLast
  let gaps := (inner.filter List.isEmpty).length
  let first := (groups.head?.getD []).isEmpty
  let last := (groups.getLast?.getD []).isEmpty
  let before := (inner.takeWhile (!·.isEmpty)).length + 1
  let after := groups.length - before - 1
  let shape :=
    if gaps = 0 then groups.length == 8 && !first && !last
    else
      gaps == 1 && (!first || before == 1) && (!last || after == 1) &&
        (if first then before - 1 else before) + (if last then after - 1 else after) ≤ 7
  3 ≤ groups.length && groups.length ≤ 9 && shape &&
    groups.all fun group => group.length ≤ 4 && group.all isHex

def isIpv6 (host : Text) : Bool :=
  let address := (Text.cut '%' host).1
  let scopeFine :=
    match (Text.cut '%' host).2 with
    | none => true
    | some scope => !scope.isEmpty && !scope.contains '%'
  let groups := Text.pieces ':' address
  let last := groups.getLast?.getD []
  let expanded :=
    if last.contains '.' then
      if isIpv4 last && 3 ≤ groups.length then groups.dropLast ++ [['0'], ['0']] else []
    else groups
  scopeFine && areIpv6Groups expanded

/-- Checks a host that stands in brackets. -/
def checkBracketed (host : Text) : Except SplitError Unit :=
  match host with
  | 'v' :: rest =>
    match Text.cut '.' rest with
    | (digits, some tail) =>
      if !digits.isEmpty && digits.all isHex && !tail.isEmpty && !tail.contains '\n' then .ok ()
      else .error .badFutureAddress
    | (_, none) => .error .badFutureAddress
  | _ =>
    if isIpv4 host then .error .bracketedIpv4
    else if isIpv6 host then .ok ()
    else .error (.notAddress host)

/-- Checks an authority with both brackets: nothing stands before the host, and only a port behind
it. -/
def checkBrackets (authority : Text) : Except SplitError Unit :=
  let location := (authority.reverse.takeWhile (· ≠ '@')).reverse
  match Text.cut '[' location with
  | ([], some inside) =>
    match Text.cut ']' inside with
    | (host, some (c :: _)) => if c = ':' then checkBracketed host else .error .unbalancedBrackets
    | (host, _) => checkBracketed host
  | (_, some _) => .error .unbalancedBrackets
  | (_, none) => checkBracketed (Text.cut ':' location).1

/-- Characters whose plain form holds a character that delimits the parts of a URL. -/
def hidesDelimiter (c : Char) : Bool :=
  [0x2047, 0x2048, 0x2049, 0x2100, 0x2101, 0x2105, 0x2106, 0x2A74, 0xFE13, 0xFE16, 0xFE55, 0xFE56, 0xFE5F,
    0xFE6B, 0xFF03, 0xFF0F, 0xFF1A, 0xFF1F, 0xFF20].contains c.toNat

def checkAuthority (authority : Text) : Except SplitError Unit := do
  match authority.contains '[', authority.contains ']' with
  | true, true => checkBrackets authority
  | false, false => pure ()
  | _, _ => .error .unbalancedBrackets
  if authority.any hidesDelimiter then .error (.hiddenDelimiter authority) else pure ()

/-- The parameters behind the last path segment. -/
def splitParameters (path : Text) : Text × Text :=
  let segment := (path.reverse.takeWhile (· ≠ '/')).reverse
  match Text.cut ';' segment with
  | (name, some parameters) => (path.take (path.length - segment.length) ++ name, parameters)
  | (_, none) => (path, [])

/-- The parts of a URL; the given scheme holds for a URL without one. -/
def split (scheme url : Text) : Except SplitError Parts := do
  let clean := (url.dropWhile (·.toNat ≤ 0x20)).filter fun c => c ≠ '\t' && c ≠ '\r' && c ≠ '\n'
  let (scheme, rest) := splitScheme scheme clean
  let isEnd := fun (c : Char) => c == '/' || c == '?' || c == '#'
  let (authority, rest) :=
    match rest with
    | '/' :: '/' :: more => (more.takeWhile (!isEnd ·), more.dropWhile (!isEnd ·))
    | _ => ([], rest)
  checkAuthority authority
  let (rest, fragment) := Text.cut '#' rest
  let (path, query) := Text.cut '?' rest
  let (path, parameters) :=
    if parameterSchemes.contains (String.ofList scheme) then splitParameters path else (path, [])
  return ⟨scheme, authority, path, parameters, query.getD [], fragment.getD []⟩

/-- The URL made of parts. -/
def Parts.join (parts : Parts) : Text :=
  let path := if parts.parameters.isEmpty then parts.path else parts.path ++ ';' :: parts.parameters
  let hasAuthority := !parts.authority.isEmpty ||
    (!parts.scheme.isEmpty && authoritySchemes.contains (String.ofList parts.scheme) &&
      !List.isPrefixOf ['/', '/'] path)
  let rooted := if !path.isEmpty && path.head? != some '/' then '/' :: path else path
  let located := if hasAuthority then ['/', '/'] ++ parts.authority ++ rooted else path
  (if parts.scheme.isEmpty then located else parts.scheme ++ ':' :: located) ++
    (if parts.query.isEmpty then [] else '?' :: parts.query) ++
    (if parts.fragment.isEmpty then [] else '#' :: parts.fragment)

/-- The segments left when `.` stays in place and `..` goes back one segment; `kept` holds the
segments so far, last first. -/
def resolveDots (kept : List Text) : List Text → List Text
  | [] => kept.reverse
  | segment :: rest =>
    if segment = ['.', '.'] then resolveDots kept.tail rest
    else if segment = ['.'] then resolveDots kept rest
    else resolveDots (segment :: kept) rest

/-- The path of a reference relative to the path of the base. -/
def resolvePath (base path : Text) : Text :=
  let basePieces := Text.pieces '/' base
  let directory := if (basePieces.getLast?.getD []).isEmpty then basePieces else basePieces.dropLast
  let segments :=
    if path.head? == some '/' then Text.pieces '/' path
    else
      let all := directory ++ Text.pieces '/' path
      all.take 1 ++ ((all.drop 1).dropLast.filter (!·.isEmpty)) ++ (all.drop 1).getLast?.toList
  let last := segments.getLast?.getD []
  let resolved := resolveDots [] segments ++ (if last = ['.'] || last = ['.', '.'] then [[]] else [])
  match Text.joinWith ['/'] resolved with
  | [] => ['/']
  | joined => joined

/-- The absolute form of a reference found at a base URL. -/
def resolve (base reference : Text) : Except SplitError Text := do
  if base.isEmpty then return reference
  else if reference.isEmpty then return base
  else
    let origin ← split [] base
    let target ← split origin.scheme reference
    let scheme := String.ofList target.scheme
    if target.scheme ≠ origin.scheme || !relativeSchemes.contains scheme then return reference
    else if authoritySchemes.contains scheme && !target.authority.isEmpty then return target.join
    else
      let located := if authoritySchemes.contains scheme then { target with authority := origin.authority } else target
      if target.path.isEmpty && target.parameters.isEmpty then
        return { located with
          path := origin.path
          parameters := origin.parameters
          query := if target.query.isEmpty then origin.query else target.query }.join
      else return { located with path := resolvePath origin.path target.path }.join

end QueryCompletion.Url
