import TripProposal.Url.Host
import TripProposal.Url.Query

/-!
# URLs

A URL is split into scheme, location, path, query and fragment without interpreting any of them.
Control characters in front and tabs and line breaks anywhere are dropped first. Joining the
parts gives the URL back up to empty queries and fragments.
-/

namespace TripProposal

open Text Url

/-- The parts of a URL. -/
structure Url where
  /-- Scheme in small letters, empty when the URL has none. -/
  scheme : List CodePoint
  location : List CodePoint
  path : List CodePoint
  query : List CodePoint
  fragment : List CodePoint
deriving DecidableEq

/-- Why a text is no URL. -/
inductive UrlFault
  | brackets
  /-- The location holds a delimiter in disguise. -/
  | disguise
deriving DecidableEq

namespace Url

/-- Whether a character may occur in a scheme. -/
def isSchemeChar (c : CodePoint) : Bool :=
  c.isAlphanum || c == '+' || c == '-' || c == '.'

/-- The scheme in small letters and what follows its colon; without a scheme, the text itself. -/
def cutScheme (text : List CodePoint) : List CodePoint × List CodePoint :=
  match cutAt ':' text with
  | (scheme, rest) =>
    if text.contains ':' && scheme.head?.any CodePoint.isAlpha && scheme.all isSchemeChar then
      (scheme.map CodePoint.toLower, rest)
    else ([], text)

/-- Whether a character ends the location. -/
def endsLocation (c : CodePoint) : Bool :=
  c == '/' || c == '?' || c == '#'

/-- The location behind two slashes and what follows it; without the slashes, no location. -/
def cutLocation (text : List CodePoint) : List CodePoint × List CodePoint :=
  match text with
  | '/' :: '/' :: rest => (rest.takeWhile (!endsLocation ·), rest.dropWhile (!endsLocation ·))
  | _ => ([], text)

/-- The text as far as the splitting looks at it. -/
def cleaned (text : List CodePoint) : List CodePoint :=
  (text.dropWhile (·.toNat ≤ 32)).filter fun c => c != '\t' && c != '\r' && c != '\n'

/-- Split a URL into its parts. -/
def split (text : List CodePoint) : Except UrlFault Url :=
  let (scheme, rest) := cutScheme (cleaned text)
  let (location, rest) := cutLocation rest
  if !bracketsAllowed location then .error .brackets
  else if !delimitersAllowed location then .error .disguise
  else
    let (rest, fragment) := cutAt '#' rest
    let (path, query) := cutAt '?' rest
    .ok ⟨scheme, location, path, query, fragment⟩

/-- The schemes whose URLs have a location even when it is empty. -/
def schemesWithLocation : List Text :=
  ["ftp", "http", "gopher", "nntp", "telnet", "imap", "wais", "file", "mms", "https", "shttp",
   "snews", "prospero", "rtsp", "rtsps", "rtspu", "rsync", "svn", "svn+ssh", "sftp", "nfs", "git",
   "git+ssh", "ws", "wss"]

/-- Join the parts of a URL. -/
def join (url : Url) : List CodePoint :=
  let located :=
    !url.location.isEmpty || schemesWithLocation.contains (Text.ofList url.scheme) ||
      [.char '/', .char '/'].isPrefixOf url.path
  let path :=
    if located then
      .char '/' :: .char '/' :: url.location ++
        (if url.path.isEmpty || url.path.head? == some (.char '/') then url.path else '/' :: url.path)
    else url.path
  (if url.scheme.isEmpty then [] else url.scheme ++ [.char ':']) ++ path ++
    (if url.query.isEmpty then [] else .char '?' :: url.query) ++
    (if url.fragment.isEmpty then [] else .char '#' :: url.fragment)

/-- The host of a URL, empty when it has none. -/
def host (url : Url) : List CodePoint :=
  hostOf url.location

end Url

end TripProposal
