import Sift.Unicode.Idna

/-!
# Connection URLs

`Url.check` decides whether a text is a URL that can serve as the base of a connection, by the
URL Standard's parsing rules, and if not, why. Parsing starts from the text without leading and
trailing C0 controls and spaces and without any tab or line break. Then:

* A scheme is a letter followed by letters, digits, `+`, `-` or `.`, ended by `:`; without one
  the text is a relative URL, which has no base here.
* The special schemes `http`, `https`, `ws`, `wss` and `ftp` skip any slashes and backslashes and
  read an authority: optional user information up to the last `@`, a host, and an optional port.
  Their host must not be empty; it is percent-decoded and must be a valid domain name
  (`Unicode.processDomain`); a host that ends in a number must be an IPv4 address, one in
  brackets an IPv6 address.
* `file` reads a host only after two slashes and allows it to be empty.
* Any other scheme reads an authority only after `//` (its host is opaque: it may be empty but
  must not hold the characters a host may not hold), a path after `/`, and otherwise has an
  opaque path: such a URL parses but cannot be a base.
* A port is at most 65535 and ends at `/`, `\`, `?`, `#` or the end.

Paths, queries and fragments never fail.
-/

namespace Sift.Url

/-- Why a text is not a URL. -/
inductive UrlError where
  | relativeWithoutBase
  | emptyHost
  | invalidPort
  | invalidIpv4
  | invalidIpv6
  | invalidDomainCharacter
  | invalidDomain
  deriving DecidableEq, Repr

/-- The wording of a failure. -/
def UrlError.message : UrlError → String
  | .relativeWithoutBase => "relative URL without a base"
  | .emptyHost => "empty host"
  | .invalidPort => "invalid port number"
  | .invalidIpv4 => "invalid IPv4 address"
  | .invalidIpv6 => "invalid IPv6 address"
  | .invalidDomainCharacter => "invalid domain character"
  | .invalidDomain => "invalid international domain name"

/-- What a URL that parses is: a base for others, or one with an opaque path. -/
inductive UrlForm where
  | hierarchical
  | pathOnly
  deriving DecidableEq, Repr

/-- The text to parse: without leading and trailing C0 controls and spaces, and without tabs
and line breaks. -/
def clean (s : String) : List Char :=
  let edge (c : Char) : Bool := c.toNat ≤ 0x20
  let cs := ((s.toList.dropWhile edge).reverse.dropWhile edge).reverse
  cs.filter fun c => c ≠ '\t' ∧ c ≠ '\n' ∧ c ≠ '\r'

/-- Whether a character may continue a scheme. -/
def isSchemeChar (c : Char) : Bool := c.isAlphanum || c = '+' || c = '-' || c = '.'

/-- The lowercase scheme and the text after its colon, if the text starts with a scheme. -/
def scheme? (cs : List Char) : Option (String × List Char) :=
  match cs with
  | c :: _ =>
    if c.isAlpha then
      let name := cs.takeWhile isSchemeChar
      match cs.drop name.length with
      | ':' :: rest => some (String.ofList (name.map Char.toLower), rest)
      | _ => none
    else none
  | [] => none

/-- The schemes with an authority and a default port. -/
def specialSchemes : List String := ["http", "https", "ws", "wss", "ftp"]

/-- The value of a hex digit. -/
def hexValue (c : Char) : Option Nat :=
  if '0' ≤ c ∧ c ≤ '9' then some (c.toNat - 48)
  else if 'a' ≤ c ∧ c ≤ 'f' then some (c.toNat - 87)
  else if 'A' ≤ c ∧ c ≤ 'F' then some (c.toNat - 55)
  else none

/-! ## IPv6 addresses -/

/-- Reads up to four hex digits; the number read and the rest. -/
def hexPiece : Nat → List Char → Nat × List Char
  | 0, cs => (0, cs)
  | n + 1, c :: rest =>
    match hexValue c with
    | some _ => let (k, r) := hexPiece n rest; (k + 1, r)
    | none => (0, c :: rest)
  | _, [] => (0, [])

/-- Reads the dotted IPv4 tail of an IPv6 address: exactly four decimal numbers up to 255
without leading zeros. -/
def ipv4Tail (cs : List Char) : Bool :=
  let parts := cs.splitOn '.'
  parts.length = 4 && parts.all fun p =>
    !p.isEmpty && p.all Char.isDigit && (p.length = 1 || p.head? ≠ some '0') &&
      p.foldl (fun a c => 10 * a + (c.toNat - 48)) 0 ≤ 255

/-- Whether the rest of an IPv6 address is valid when `index` 16-bit pieces are placed
(a `::` counts as one) and `compressed` says whether `::` was seen: without `::` there must be
eight pieces in the end. A piece has one to four hex digits; a dotted IPv4 tail takes two
pieces and must come at index 6 at the latest. -/
def ipv6Rest (index : Nat) (compressed : Bool) : Nat → List Char → Bool
  | 0, _ => false
  | _, [] => compressed || index = 8
  | fuel + 1, c :: cs =>
    if index = 8 then false
    else if c = ':' then !compressed && ipv6Rest (index + 1) true fuel cs
    else
      let (n, rest) := hexPiece 4 (c :: cs)
      match rest with
      | '.' :: _ => n ≠ 0 && index ≤ 6 && ipv4Tail (c :: cs) && (compressed || index + 2 = 8)
      | [':'] => false
      | ':' :: more => ipv6Rest (index + 1) compressed fuel more
      | [] => ipv6Rest (index + 1) compressed fuel []
      | _ => false

/-- Whether the text between brackets is an IPv6 address. -/
def isIpv6 (cs : List Char) : Bool :=
  if cs.length < 2 then false
  else
    match cs with
    | ':' :: ':' :: rest => ipv6Rest 1 true (rest.length + 1) rest
    | ':' :: _ => false
    | _ => ipv6Rest 0 false (cs.length + 1) cs

/-! ## IPv4 addresses -/

/-- The value of an IPv4 number: `0x` or `0X` starts hex, a leading `0` octal, otherwise
decimal; nothing if it is not one, `none` inside if it is too large for 32 bits. -/
def ipv4Number (cs : List Char) : Option (Option Nat) :=
  if cs.isEmpty then none
  else
    let (digits, radix) := match cs with
      | '0' :: 'x' :: rest | '0' :: 'X' :: rest => (rest, 16)
      | '0' :: rest@(_ :: _) => (rest, 8)
      | _ => (cs, 10)
    if digits.isEmpty then some (some 0)
    else if digits.all fun c => (hexValue c).any (· < radix) then
      let v := digits.foldl (fun a c => radix * a + (hexValue c).getD 0) 0
      some (if v < Nat.pow 2 32 then some v else none)
    else none

/-- Whether a domain ends in a number: its last label (before a final dot) is all digits or an
IPv4 number. -/
def endsInNumber (cs : List Char) : Bool :=
  let labels := (cs.splitOn '.').reverse
  let last := match labels with
    | [] :: l :: _ => some l
    | [] :: [] => none
    | l :: _ => some l
    | [] => none
  match last with
  | some l => (!l.isEmpty && l.all Char.isDigit) || (ipv4Number l).isSome
  | none => false

/-- Whether a domain is an IPv4 address: at most four numbers (a final dot allowed), each but
the last at most 255, the last filling the remaining bytes. -/
def isIpv4 (cs : List Char) : Bool :=
  let parts := cs.splitOn '.'
  let parts := if parts.getLast? = some [] then parts.dropLast else parts
  if parts.length > 4 || parts.isEmpty then false
  else
    match parts.mapM ipv4Number with
    | none => false
    | some nums =>
      match nums.mapM id with
      | none => false
      | some ns =>
        let front := ns.dropLast
        let last := ns.getLast?.getD 0
        last < Nat.pow 2 (8 * (4 - front.length)) && front.all (· ≤ 255)

/-! ## Domains -/

/-- The bytes of a host with percent escapes decoded (an escape that is not two hex digits stays
as it is). -/
def percentDecode : List UInt8 → List UInt8
  | 37 :: a :: b :: rest =>
    match hexValue (Char.ofNat a.toNat), hexValue (Char.ofNat b.toNat) with
    | some x, some y => (16 * x + y).toUInt8 :: percentDecode rest
    | _, _ => 37 :: percentDecode (a :: b :: rest)
  | x :: rest => x :: percentDecode rest
  | [] => []

/-- The bytes of a text as UTF-8 read back into characters, if they are valid UTF-8. -/
def decodeUtf8 (bytes : List UInt8) : Option String :=
  String.fromUTF8? (ByteArray.mk bytes.toArray)

/-- Checks the host of a special URL. -/
def checkSpecialHost (host : List Char) : Except UrlError Unit :=
  match host with
  | '[' :: inner =>
    if inner.getLast? ≠ some ']' then .error .invalidIpv6
    else if isIpv6 inner.dropLast then .ok () else .error .invalidIpv6
  | _ =>
    match decodeUtf8 (percentDecode (String.ofList host).toUTF8.toList) with
    | none => .error .invalidDomain
    | some text =>
      match Unicode.processDomain text.toList with
      | none => .error .invalidDomain
      | some domain =>
        if domain.isEmpty then .error .emptyHost
        else if endsInNumber domain then
          if isIpv4 domain then .ok () else .error .invalidIpv4
        else .ok ()

/-- Whether a character may not stand in an opaque host. -/
def deniedInHost (c : Char) : Bool := "\x00\t\n\r #/:<>?@[\\]^|".contains c

/-- Checks the host of a non-special URL; says whether it is empty. -/
def checkOtherHost (host : List Char) : Except UrlError Bool :=
  match host with
  | '[' :: inner =>
    if inner.getLast? ≠ some ']' then .error .invalidIpv6
    else if isIpv6 inner.dropLast then .ok false else .error .invalidIpv6
  | _ => if host.any deniedInHost then .error .invalidDomainCharacter else .ok host.isEmpty

/-- Checks a port: digits up to 65535, ended by `/`, `\`, `?`, `#` or the end. -/
def checkPort (cs : List Char) : Except UrlError Unit :=
  let digits := cs.takeWhile Char.isDigit
  let value := digits.foldl (fun a c => 10 * a + (c.toNat - 48)) 0
  if value > 65535 then .error .invalidPort
  else
    match cs.drop digits.length with
    | [] => .ok ()
    | c :: _ => if c = '/' ∨ c = '\\' ∨ c = '?' ∨ c = '#' then .ok () else .error .invalidPort

/-- The host part of an authority and the rest: up to a colon outside brackets, a slash, `?`,
`#`, or (for special schemes) a backslash. -/
def splitHost (special : Bool) : Bool → List Char → List Char × List Char
  | _, [] => ([], [])
  | inside, c :: rest =>
    if (c = ':' ∧ !inside) ∨ (c = '\\' ∧ special) ∨ c = '/' ∨ c = '?' ∨ c = '#' then ([], c :: rest)
    else
      let inside' := if c = '[' then true else if c = ']' then false else inside
      let (h, r) := splitHost special inside' rest
      (c :: h, r)

/-- Checks an authority: user information, host and port. -/
def checkAuthority (special : Bool) (cs : List Char) : Except UrlError Unit := do
  let stops (c : Char) : Bool := c = '/' ∨ c = '?' ∨ c = '#' ∨ (special ∧ c = '\\')
  let scope := cs.takeWhile (!stops ·)
  let (rest, userinfo) := match scope.reverse.findIdx? (· = '@') with
    | some j =>
      let atPos := scope.length - 1 - j
      (cs.drop (atPos + 1), some (cs.take atPos))
    | none => (cs, none)
  if userinfo = some [] then
    match rest with
    | c :: _ => if stops c then throw .emptyHost
    | [] => pure ()
  let hasAuthority : Bool := match userinfo with
    | some u => u != [] && u != [':']
    | none => false
  let (host, after) := splitHost special false rest
  let empty ← if special then
      if host.isEmpty then throw .emptyHost
      checkSpecialHost host
      pure false
    else checkOtherHost host
  if empty ∧ after.head? = some ':' then throw .emptyHost
  match after with
  | ':' :: port => checkPort port
  | _ => pure ()
  if empty && hasAuthority then throw .emptyHost

/-- Whether a file host is a drive letter (`C:` or `C|`). -/
def isDriveLetter : List Char → Bool
  | [c, d] => c.isAlpha && (d = ':' || d = '|')
  | _ => false

/-- Checks what follows `file:`: after two slashes (or backslashes) a host, which may be empty
or a drive letter. -/
def checkFile (cs : List Char) : Except UrlError Unit :=
  let slash (c : Char) : Bool := c = '/' ∨ c = '\\'
  match cs with
  | a :: b :: rest =>
    if slash a ∧ slash b then
      let host := rest.takeWhile fun c => !(slash c ∨ c = '?' ∨ c = '#')
      if host.isEmpty ∨ isDriveLetter host then .ok () else checkSpecialHost host
    else .ok ()
  | _ => .ok ()

/-- Checks a URL and says what it is. -/
def check (s : String) : Except UrlError UrlForm :=
  match scheme? (clean s) with
  | none => .error .relativeWithoutBase
  | some (name, rest) =>
    if specialSchemes.contains name then
      (checkAuthority true (rest.dropWhile fun c => c = '/' ∨ c = '\\')).map fun _ => .hierarchical
    else if name = "file" then (checkFile rest).map fun _ => .hierarchical
    else
      match rest with
      | '/' :: '/' :: more => (checkAuthority false more).map fun _ => .hierarchical
      | '/' :: _ => .ok .hierarchical
      | _ => .ok .pathOnly

end Sift.Url
