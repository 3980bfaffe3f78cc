import SwapRouter.Url.Host

/-!
# Addresses of the network

An address has a scheme, a host with an optional port, a path, and perhaps a query and a
fragment.  `Url.parse?` reads one into its parts, each in the form in which it is sent;
`Url.toText` writes them.  An address without a scheme or a host is relative, and
`Url.resolve` completes it by a base.
-/

namespace SwapRouter

/-- The parts of an address, in the form in which they are sent. -/
structure Url where
  scheme : List Char := []
  /-- What stands in front of the host. -/
  user : List Char := []
  host : List Char := []
  /-- The port, unless it is the usual one of the scheme. -/
  port : Option Int := none
  path : List Char := []
  query : Option (List Char) := none
  fragment : Option (List Char) := none
  deriving DecidableEq

namespace Url

/-- The greatest length of an address, in characters. -/
def maxLength : Nat := 65536

/-- A character that may not stand in an address. -/
def isControl (c : Char) : Bool := c < ' ' || c = '\x7f'

/-! ## Splitting -/

/-- Splits the scheme off; it may be empty, but its colon must be there. -/
def splitScheme (cs : List Char) : List Char × List Char :=
  let isSchemeChar (c : Char) : Bool := c.isAlphanum || c = '+' || c = '.' || c = '-'
  let scheme := cs.takeWhile isSchemeChar
  match cs.drop scheme.length with
  | ':' :: rest => if scheme.head?.all Char.isAlpha then (scheme, rest) else ([], cs)
  | _ => ([], cs)

/-- Splits off what stands between two slashes and the path. -/
def splitAuthority : List Char → List Char × List Char
  | '/' :: '/' :: rest =>
    let isEnd (c : Char) : Bool := c = '/' || c = '?' || c = '#'
    (rest.takeWhile (!isEnd ·), rest.dropWhile (!isEnd ·))
  | cs => ([], cs)

/-- Splits off what stands behind the first one of a character. -/
def splitBehind (mark : Char) (cs : List Char) : List Char × Option (List Char) :=
  match cs.dropWhile (· ≠ mark) with
  | _ :: rest => (cs.takeWhile (· ≠ mark), some rest)
  | [] => (cs, none)

/-- Splits off what stands in front of the last `@`. -/
def splitUser (cs : List Char) : List Char × List Char :=
  if cs.contains '@' then
    let host := (cs.reverse.takeWhile (· ≠ '@')).reverse
    (cs.take (cs.length - host.length - 1), host)
  else ([], cs)

/-- Splits a host from its port. -/
def splitPort (cs : List Char) : List Char × List Char :=
  let host :=
    if cs.head? = some '[' && cs.contains ']' then
      cs.take (cs.length - (cs.reverse.takeWhile (· ≠ ']')).length)
    else cs.takeWhile (· ≠ ':')
  match cs.drop host.length with
  | ':' :: port => (host, port)
  | port => (host, port)

/-! ## Parts -/

/-- The usual ports of schemes. -/
def usualPorts : List (String × Int) :=
  [("ftp", 21), ("http", 80), ("https", 443), ("ws", 80), ("wss", 443)]

/-- A port as it is kept; nothing in its place for the usual one of the scheme. -/
def keptPort? (scheme port : List Char) : Option (Option Int) :=
  if port = [] then some none
  else match Text.decimalInteger? (String.ofList port) with
    | none => none
    | some n =>
      if usualPorts.lookup (String.ofList scheme) = some n then some none else some (some n)

/-- Puts a part behind those before it; `..` takes one away, but not the empty one in front
of the first slash. -/
def pushPart (parts : List (List Char)) (part : List Char) : List (List Char) :=
  if part = ['.'] then parts
  else if part = ['.', '.'] then if parts = [[]] then parts else parts.dropLast
  else parts ++ [part]

/-- A path without parts that stay in place or lead upwards. -/
def directPath (path : List Char) : List Char :=
  let parts := path.splitOn '/'
  if parts.contains ['.'] || parts.contains ['.', '.'] then
    ((parts.foldl pushPart []).intersperse ['/']).flatten
  else path

/-- Whether a path may stand behind the parts in front of it. -/
def isPathFit (hasScheme hasAuthority : Bool) (path : List Char) : Bool :=
  if hasAuthority then path = [] || path.head? = some '/'
  else hasScheme || (path.take 2 ≠ ['/', '/'] && path.head? ≠ some ':')

/-- Puts the parts of an address together, each in the form in which it is sent. -/
def ofParts? (scheme authority path : List Char) (query fragment : Option (List Char)) :
    Option Url := do
  let (user, place) := splitUser authority
  let (host, port) := splitPort place
  let user := escape (isVisibleBut notInUser) user
  let host ← keptHost? host
  let port ← keptPort? scheme port
  let hasScheme := scheme ≠ []
  let hasAuthority := user ≠ [] || host ≠ [] || port.isSome
  if !isPathFit hasScheme hasAuthority path then none
  else
    let path := if hasScheme || hasAuthority then directPath path else path
    some {
      scheme := scheme.map Char.toLower
      user, host, port
      path := escape (isVisibleBut notInPath) path
      query := query.map (escape (isVisibleBut notInQuery))
      fragment := fragment.map (escape (isVisibleBut notInFragment)) }

/-- Reads an address; nothing if it cannot be one. -/
def parse? (s : String) : Option Url :=
  let cs := Text.plainChars s
  if maxLength < cs.length || cs.any isControl || Text.hasHalf s then none
  else
    let (cs, fragment) := splitBehind '#' cs
    let (cs, query) := splitBehind '?' cs
    let (scheme, rest) := splitScheme cs
    let (authority, path) := splitAuthority rest
    ofParts? scheme authority path query fragment

/-! ## Writing -/

/-- What stands between the two slashes and the path. -/
def authority (u : Url) : List Char :=
  (if u.user = [] then [] else u.user ++ ['@'])
    ++ (if u.host.contains ':' then ['['] ++ u.host ++ [']'] else u.host)
    ++ match u.port with
      | some port => ':' :: (toString port).toList
      | none => []

/-- The text of an address. -/
def toText (u : Url) : String :=
  let place := u.authority
  String.ofList <|
    (if u.scheme = [] then [] else u.scheme ++ [':'])
      ++ (if place = [] then [] else ['/', '/'] ++ place)
      ++ u.path
      ++ (u.query.elim [] ('?' :: ·))
      ++ (u.fragment.elim [] ('#' :: ·))

/-- Whether an address names both a scheme and a host. -/
def isAbsolute (u : Url) : Bool := u.scheme ≠ [] && u.host ≠ []

/-- The path; without one it is the root. -/
def fullPath (u : Url) : List Char := if u.path = [] then ['/'] else u.path

/-- An address as seen from a base with the path `/`: a relative one lends it its path and
query. -/
def resolve (base u : Url) : Option Url :=
  if u.isAbsolute then some u
  else
    let place := u.fullPath ++ u.query.elim [] ('?' :: ·)
    let (path, query) := splitBehind '?' ('/' :: place.dropWhile (· = '/'))
    ofParts? base.scheme base.authority path query none

/-- The path with its escapes replaced. -/
def plainPath (u : Url) : String := unescape (String.ofList u.fullPath)

end Url

end SwapRouter
