import StandbyStream.IpAddress
import StandbyStream.Report
import StandbyStream.Url.Domain

/-!
# Absolute URLs

The reading of an absolute URL as far as it decides whether the text is one and
which host it names. Schemes fall into three kinds: `file`, the other special
ones, whose host must be a domain name or an IP address, and the rest, whose
host is any text without delimiters.
-/

namespace StandbyStream.Url

/-- Why a text is no absolute URL. -/
inductive Fault where
  | noScheme
  | emptyHost
  | badPort
  | badIpv6
  | badIpv4
  | badDomain
  | forbiddenCharacter
  deriving DecidableEq, Repr

/-- The wording of a fault. -/
def Fault.message : Fault → String
  | .noScheme => "relative URL without a base"
  | .emptyHost => "empty host"
  | .badPort => "invalid port number"
  | .badIpv6 => "invalid IPv6 address"
  | .badIpv4 => "invalid IPv4 address"
  | .badDomain => "invalid international domain name"
  | .forbiddenCharacter => "invalid domain character"

/-- A host that a URL names. -/
inductive Host where
  | name (text : List Char)
  | address (address : IpAddress)
  deriving DecidableEq, Repr

/-- The three kinds of schemes. -/
inductive SchemeKind where
  | file
  | special
  | other
  deriving DecidableEq, Repr

/-- The kind of a scheme in lower case. -/
def SchemeKind.of (scheme : String) : SchemeKind :=
  if scheme = "file" then .file
  else if scheme ∈ ["http", "https", "ws", "wss", "ftp"] then .special
  else .other

/-- A backslash separates like a slash where the scheme is special. -/
def SchemeKind.isSlash (kind : SchemeKind) (c : Char) : Bool :=
  c == '/' || (c == '\\' && kind != .other)

/-- A character that ends the authority. -/
def SchemeKind.endsAuthority (kind : SchemeKind) (c : Char) : Bool :=
  kind.isSlash c || c == '?' || c == '#'

/-! ## Hosts -/

/-- Replaces every percent sign with two hexadecimal digits by the byte that they spell. -/
def percentDecode : List UInt8 → List UInt8
  | 0x25 :: a :: b :: rest =>
    match Text.hexDigit? (Char.ofNat a.toNat), Text.hexDigit? (Char.ofNat b.toNat) with
    | some hi, some lo => UInt8.ofNat (hi * 16 + lo) :: percentDecode rest
    | _, _ => 0x25 :: percentDecode (a :: b :: rest)
  | byte :: rest => byte :: percentDecode rest
  | [] => []

/-- A number of an IPv4 address: decimal, octal behind a zero, hexadecimal behind `0x`. -/
def ipv4Number (cs : List Char) : Option Nat :=
  let value (base : Nat) (ds : List Char) : Option Nat := do
    let ds ← ds.mapM Text.hexDigit?
    if ds.all (· < base) then some (Text.ofDigits base ds) else none
  match cs with
  | [] => none
  | '0' :: 'x' :: ds => value 16 ds
  | '0' :: 'X' :: ds => value 16 ds
  | '0' :: d :: ds => value 8 (d :: ds)
  | ds => value 10 ds

/-- The parts between dots without an empty last one. -/
def dottedParts (cs : List Char) : List (List Char) :=
  let parts := Text.splitAtEach '.' cs
  if parts.getLast? = some [] then parts.dropLast else parts

/-- The last part of the name is a number, so that the name has to be an IPv4 address. -/
def endsInNumber (cs : List Char) : Bool :=
  match (dottedParts cs).getLast? with
  | none => false
  | some part => (!part.isEmpty && part.all Char.isDigit) || (ipv4Number part).isSome

/-- The address of up to four numbers, of which the last fills the octets that the others leave. -/
def ipv4OfNumbers (numbers : List Nat) : Option IpAddress :=
  match numbers.reverse with
  | [] => none
  | last :: front =>
    if 3 < front.length ∨ front.any (255 < ·) ∨ Nat.pow 256 (4 - front.length) ≤ last then none
    else
      some (.v4 (front.reverse ++
        ((List.range (4 - front.length)).reverse.map fun i => last / Nat.pow 256 i % 256)))

/-- The host of a special scheme: a bracketed IPv6 address, an IPv4 address or a domain name. -/
def specialHost (cs : List Char) : Except Fault Host :=
  match cs with
  | '[' :: inner =>
    if inner.getLast? = some ']' then
      match IpAddress.parseV6 inner.dropLast with
      | some groups => .ok (.address (.v6 groups))
      | none => .error .badIpv6
    else .error .badIpv6
  | _ =>
    let bytes := percentDecode (String.ofList cs).toUTF8.toList
    match String.fromUTF8? (ByteArray.mk bytes.toArray) with
    | none => .error .badDomain
    | some decoded =>
      match domainName decoded.toList with
      | none => .error .badDomain
      | some [] => .error .emptyHost
      | some name =>
        if endsInNumber name then
          match (dottedParts name).mapM ipv4Number with
          | none => .error .badIpv4
          | some numbers =>
            match ipv4OfNumbers numbers with
            | some address => .ok (.address address)
            | none => .error .badIpv4
        else .ok (.name name)

/-- A delimiter, which no host of another scheme may hold. -/
def isDelimiter (c : Char) : Bool :=
  c.toNat == 0 ||
    c ∈ ['\t', '\n', '\r', ' ', '#', '/', ':', '<', '>', '?', '@', '[', '\\', ']', '^', '|']

/-- The host of a scheme that is not special; it may be empty. -/
def otherHost (cs : List Char) : Except Fault (Option Host) :=
  match cs with
  | '[' :: inner =>
    if inner.getLast? = some ']' then
      match IpAddress.parseV6 inner.dropLast with
      | some groups => .ok (some (.address (.v6 groups)))
      | none => .error .badIpv6
    else .error .badIpv6
  | [] => .ok none
  | _ => if cs.any isDelimiter then .error .forbiddenCharacter else .ok (some (.name cs))

/-! ## Authority -/

/-- The characters up to the end of the host, and the rest. A colon inside brackets belongs to
the host. -/
def spanHost (kind : SchemeKind) (bracketed : Bool) : List Char → List Char × List Char
  | [] => ([], [])
  | c :: rest =>
    if (c == ':' && !bracketed) || kind.endsAuthority c then ([], c :: rest)
    else
      let inside := if c == '[' then true else if c == ']' then false else bracketed
      let (host, after) := spanHost kind inside rest
      (c :: host, after)

/-- Checks a port: digits up to 65535, then the end of the authority. -/
def checkPort (port : Nat) : List Char → Except Fault Unit
  | [] => .ok ()
  | c :: rest =>
    match Text.digit? c with
    | some d =>
      if port * 10 + d ≤ 65535 then checkPort (port * 10 + d) rest else .error .badPort
    | none => if c ∈ ['/', '\\', '?', '#'] then .ok () else .error .badPort

/-- User information in front of the host: whether there is any, and the text behind it. -/
def pastUserInfo (kind : SchemeKind) (cs : List Char) : Except Fault (Bool × List Char) :=
  let authority := cs.takeWhile fun c => !kind.endsAuthority c
  let rest := cs.dropWhile fun c => !kind.endsAuthority c
  match Text.cutLast '@' authority with
  | none => .ok (false, cs)
  | some ([], host) =>
    if host.isEmpty && !rest.isEmpty then .error .emptyHost else .ok (false, host ++ rest)
  | some (info, host) => .ok (info != [':'], host ++ rest)

/-- The host of an authority. -/
def authorityHost (kind : SchemeKind) (cs : List Char) : Except Fault (Option Host) := do
  let (hasUser, cs) ← pastUserInfo kind cs
  let (text, rest) := spanHost kind false cs
  if kind == .special && text.isEmpty then throw .emptyHost
  let host ← if kind == .special then some <$> specialHost text else otherHost text
  let port := match rest with
    | ':' :: port => some port
    | _ => none
  if host.isNone && port.isSome then throw .emptyHost
  match port with
  | some port => checkPort 0 port
  | none => pure ()
  if host.isNone && hasUser then throw .emptyHost
  return host

/-! ## Files -/

/-- A drive letter: an ASCII letter and a colon or bar. -/
def isDrive : List Char → Bool
  | [letter, mark] => letter.isAlpha && (mark == ':' || mark == '|')
  | _ => false

/-- The segment stands for the directory itself or, with two dots, for the one above. -/
def dots (segment : List Char) : Option Nat :=
  let plain := segment.map Char.toLower
  if plain ∈ [".".toList, "%2e".toList] then some 1
  else if plain ∈ ["..".toList, ".%2e".toList, "%2e.".toList, "%2e%2e".toList] then some 2
  else none

/-- The segments above, the nearest first, without the nearest; a drive stays. -/
def shorten : List (List Char) → List (List Char)
  | [] => []
  | last :: front => if isDrive last then last :: front else front

/-- A path, by its segments, that names a drive at its root; `above` holds the segments above, the
nearest first. -/
def namesDrive (above : List (List Char)) : List (List Char) → Bool
  | [] => false
  | segment :: rest =>
    match dots segment with
    | some 1 => namesDrive above rest
    | some _ => namesDrive (shorten above) rest
    | none => (above.isEmpty && isDrive segment) || namesDrive (segment :: above) rest

/-- The segments between slashes of the path in front of a query or fragment. -/
def pathSegments (cs : List Char) : List (List Char) :=
  let path := cs.takeWhile fun c => c != '?' && c != '#'
  let path := path.map fun c => if c == '\\' then '/' else c
  Text.splitAtEach '/' (match path with
    | '/' :: rest => rest
    | path => path)

/-- The host of a file URL; there is none for the local machine or in front of a drive. -/
def fileHost (cs : List Char) : Except Fault (Option Host) :=
  match cs with
  | a :: b :: rest =>
    if SchemeKind.file.isSlash a && SchemeKind.file.isSlash b then
      let text := rest.takeWhile fun c => !SchemeKind.file.endsAuthority c
      let path := rest.dropWhile fun c => !SchemeKind.file.endsAuthority c
      if text.isEmpty || isDrive text then .ok none
      else do
        let host ← specialHost text
        if host = .name "localhost".toList || namesDrive [] (pathSegments path) then return none
        else return some host
    else .ok none
  | _ => .ok none

/-! ## The whole URL -/

/-- The scheme in lower case and what follows its colon. -/
def cutScheme (cs : List Char) : Option (String × List Char) :=
  match cs with
  | [] => none
  | first :: _ =>
    if !first.isAlpha then none
    else
      let scheme := cs.takeWhile fun c => c.isAlphanum || c == '+' || c == '-' || c == '.'
      match cs.dropWhile fun c => c.isAlphanum || c == '+' || c == '-' || c == '.' with
      | ':' :: rest => some (String.ofList (scheme.map Char.toLower), rest)
      | _ => none

/-- Drops control characters and spaces at both ends, and tabs and line ends everywhere. -/
def tidy (cs : List Char) : List Char :=
  (Text.dropSuffixWhile (·.toNat ≤ 0x20) (cs.dropWhile (·.toNat ≤ 0x20))).filter
    fun c => c != '\t' && c != '\n' && c != '\r'

/-- The host that an absolute URL names, if it names one. -/
def host (s : String) : Except Fault (Option Host) :=
  match cutScheme (tidy s.toList) with
  | none => .error .noScheme
  | some (scheme, rest) =>
    match SchemeKind.of scheme with
    | .file => fileHost rest
    | .special => authorityHost .special (rest.dropWhile SchemeKind.special.isSlash)
    | .other =>
      match rest with
      | '/' :: '/' :: rest => authorityHost .other rest
      | _ => .ok none

end StandbyStream.Url
