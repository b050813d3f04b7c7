import TripProposal.Text.Case
import TripProposal.Text.Hex
import TripProposal.Text.Search

/-!
# Hosts

The network location of a URL holds user information, a host and a port. A host in brackets has
to be an IPv6 address or an address of a later version, and no character of the location may have
a compatibility form that contains a delimiter of URLs.
-/

namespace TripProposal.Url

open Text

/-! ### Addresses in brackets -/

/-- Whether a text is a decimal octet of an IPv4 address. -/
def isOctet (text : List CodePoint) : Bool :=
  !text.isEmpty && text.all CodePoint.isDigit && text.length ≤ 3 &&
    (text == [.char '0'] || text.head? != some (.char '0')) &&
    text.foldl (fun n c => 10 * n + (c.toNat - 48)) 0 ≤ 255

/-- Whether a text is an IPv4 address. -/
def isIpv4 (text : List CodePoint) : Bool :=
  let parts := splitAtMark '.' text
  parts.length == 4 && parts.all isOctet

/-- Whether a text is one of the groups of an IPv6 address. -/
def isHextet (text : List CodePoint) : Bool :=
  !text.isEmpty && text.length ≤ 4 && text.all isHexDigit

/-- The groups of an address, an IPv4 address at the end counting as two. -/
def ipv6Groups? (text : List CodePoint) : Option (List (List CodePoint)) :=
  let parts := splitAtMark ':' text
  let last := parts.getLast?.getD []
  if parts.length < 3 then none
  else if last.contains '.' then
    if isIpv4 last then some (parts.dropLast ++ [[.char '0'], [.char '0']]) else none
  else some parts

/-- Whether groups make up an IPv6 address: eight of them, or up to seven around one gap. -/
def isIpv6 (text : List CodePoint) : Bool :=
  match ipv6Groups? text with
  | none => false
  | some groups =>
    let inner := (groups.drop 1).dropLast
    match inner.findIdx? (·.isEmpty) with
    | none => groups.length == 8 && groups.all isHextet
    | some gap =>
      let front := groups.take (gap + 1)
      let back := groups.drop (gap + 2)
      let front := if front == [[]] then [] else front
      let back := if back == [[]] then [] else back
      groups.length ≤ 9 && front.length + back.length ≤ 7 && (front ++ back).all isHextet

/-- Whether a text is an IPv6 address, possibly with a zone. -/
def isScopedIpv6 (text : List CodePoint) : Bool :=
  let (address, zone) := cutAt '%' text
  isIpv6 address && (!text.contains '%' || (!zone.isEmpty && !zone.contains '%'))

/-- Whether a text is an address of a later version, `v` with digits, a point and more. -/
def isFutureAddress (text : List CodePoint) : Bool :=
  match text with
  | 'v' :: rest =>
    let digits := rest.takeWhile isHexDigit
    match rest.dropWhile isHexDigit with
    | '.' :: address => !digits.isEmpty && !address.isEmpty && !address.contains '\n'
    | _ => false
  | _ => false

/-- Whether the brackets of a location are in order: none at all, or both kinds around an
address. -/
def bracketsAllowed (location : List CodePoint) : Bool :=
  match location.contains '[', location.contains ']' with
  | false, false => true
  | true, true =>
    let host := (cutAt ']' (cutAt '[' location).2).1
    if host.head? == some (.char 'v') then isFutureAddress host else isScopedIpv6 host
  | _, _ => false

/-! ### Delimiters in disguise -/

/-- The characters whose compatibility form contains `/`, `?`, `#`, `@` or `:`. -/
def disguisedDelimiters : List Nat := [
  0x2047, 0x2048, 0x2049, 0x2100, 0x2101, 0x2105, 0x2106, 0x2A74, 0xFE13, 0xFE16, 0xFE55, 0xFE56,
  0xFE5F, 0xFE6B, 0xFF03, 0xFF0F, 0xFF1A, 0xFF1F, 0xFF20]

/-- Whether no character of a location is a delimiter in disguise. -/
def delimitersAllowed (location : List CodePoint) : Bool :=
  location.all fun c => !disguisedDelimiters.contains c.toNat

/-! ### The host itself -/

/-- The host of a location in small letters, without user information, brackets and port; a zone
keeps its letter case. -/
def hostOf (location : List CodePoint) : List CodePoint :=
  let hostPort := afterLast '@' location
  let host :=
    if hostPort.contains '[' then (cutAt ']' (cutAt '[' hostPort).2).1
    else (cutAt ':' hostPort).1
  lower (host.takeWhile (· ≠ .char '%')) ++ host.dropWhile (· ≠ .char '%')

/-- Whether a host is a domain or one of its subdomains. -/
def isWithin (domain host : List CodePoint) : Bool :=
  host == domain || (.char '.' :: domain).isSuffixOf host

end TripProposal.Url
