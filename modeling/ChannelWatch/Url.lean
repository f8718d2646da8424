import ChannelWatch.Url.Host

/-!
# URLs

The text of a URL is read into its parts and written again in one normal form. Six schemes
are special: they have a host and a path, take a backslash for a slash, and leave out their
default port. Steps up and steps in place disappear from a path, and what may not stand in
a part is percent-encoded.
-/

namespace ChannelWatch
set_option autoImplicit false

/-- Who and where: what stands between the two slashes and the path. -/
structure Authority where
  user : String
  password : String
  host : Host
  port : Option Nat
deriving DecidableEq

/-- The path of a URL. -/
inductive UrlPath where
  /-- A text without structure. -/
  | plain (text : String)
  /-- Segments, each behind a slash. -/
  | segments (list : List String)
deriving DecidableEq

/-- The parts of a URL, as they are written. -/
structure Url where
  scheme : String
  authority : Option Authority
  path : UrlPath
  query : Option String
  fragment : Option String
deriving DecidableEq

namespace Url

/-- The default ports of the special schemes that have one. -/
def defaultPorts : List (String × Nat) :=
  [("http", 80), ("https", 443), ("ws", 80), ("wss", 443), ("ftp", 21)]

/-- The scheme has its own rules. -/
def isSpecial (scheme : String) : Bool :=
  scheme = "file" || (defaultPorts.lookup scheme).isSome

/-- A slash, or what counts as one. -/
def isSlash (special : Bool) (c : Char) : Bool := c = '/' || (special && c = '\\')

/-- The text without what is ignored: control characters and spaces at its ends, tabs and
line ends everywhere. -/
def cleaned (text : List Char) : List Char :=
  let outer (c : Char) : Bool := c.toNat ≤ 0x20
  let trimmed := ((text.dropWhile outer).reverse.dropWhile outer).reverse
  trimmed.filter fun c => !(['\t', '\n', '\x0d'].contains c)

/-- A character that may follow the first one of a scheme. -/
def inScheme (c : Char) : Bool := c.isAlphanum || ['+', '-', '.'].contains c

/-- The scheme, in lower case, and the text behind its colon. -/
def scheme? (text : List Char) : Option (String × List Char) :=
  match text.takeWhile inScheme, text.dropWhile inScheme with
  | c :: rest, ':' :: behind =>
    if c.isAlpha then some (String.ofList ((c :: rest).map Char.toLower), behind) else none
  | _, _ => none

/-- The text up to a mark, and what stands behind the mark if there is one. -/
def cut (mark : Char) (text : List Char) : List Char × Option (List Char) :=
  (text.takeWhile (· ≠ mark), (text.dropWhile (· ≠ mark)).tail?)

/-- The text behind the last mark, and what stands before that mark if there is one. -/
def cutLast (mark : Char) (text : List Char) : List Char × Option (List Char) :=
  let (behind, before) := cut mark text.reverse
  (behind.reverse, before.map List.reverse)

/-- The host of an authority, and the text behind the colon that ends it. -/
def cutPort : (inside : Bool) → List Char → List Char × Option (List Char)
  | _, [] => ([], none)
  | inside, c :: rest =>
    if c = ':' ∧ inside = false then ([], some rest)
    else
      let (host, port) := cutPort (c = '[' || (inside && c ≠ ']')) rest
      (c :: host, port)

/-- The number of a port, none for the default one. -/
def port? (scheme : String) (digits : List Char) : Option (Option Nat) :=
  if digits.isEmpty then some none
  else do
    let number ← Numeral.decimal? digits
    if 65535 < number then none
    else if defaultPorts.lookup scheme = some number then some none
    else some (some number)

/-- Part of a user name or a password. -/
def userInfo (text : List Char) : String := String.ofList (Percent.encode Percent.inUserInfo text)

/-- Reads an authority. Only a scheme that is not special may go without a host, and then
nothing else may stand with it. -/
def authority? (scheme : String) (text : List Char) : Option Authority := do
  let (place, who) := cutLast '@' text
  let (hostText, portText) := cutPort false place
  if hostText.isEmpty ∧ (isSpecial scheme ∨ who.isSome ∨ portText.isSome) then none
  else
    let host ← if isSpecial scheme then Host.special? hostText else Host.verbatim? hostText
    let port ← port? scheme (portText.getD [])
    let (user, password) := cut ':' (who.getD [])
    some { user := userInfo user, password := userInfo (password.getD []), host, port }

/-- The segment means the one above. -/
def isUp (segment : List Char) : Bool :=
  ["..", ".%2e", "%2e.", "%2e%2e"].contains (String.ofList (segment.map Char.toLower))

/-- The segment means itself. -/
def isHere (segment : List Char) : Bool :=
  [".", "%2e"].contains (String.ofList (segment.map Char.toLower))

/-- The segment names a drive: a letter with a colon or a bar. -/
def isDrive : List Char → Bool
  | [letter, mark] => letter.isAlpha && (mark = ':' || mark = '|')
  | _ => false

/-- The segments without the last one; a drive at the root of a file stays. -/
def above (file : Bool) : List (List Char) → List (List Char)
  | [root] => if file && isDrive root then [root] else []
  | reversed => reversed.tail

/-- A segment as it is written below others. -/
def placed (file : Bool) (reversed : List (List Char)) (segment : List Char) : List Char :=
  if file && reversed.isEmpty && isDrive segment then segment.take 1 ++ [':']
  else Percent.encode Percent.inPath segment

/-- Walks along segments. The walk so far is in reverse; where it ends in a step, an empty
segment follows. -/
def walk (file : Bool) : List (List Char) → List (List Char) → List (List Char)
  | reversed, [] => reversed.reverse
  | reversed, segment :: rest =>
    let reached :=
      if isUp segment then above file reversed
      else if isHere segment then reversed
      else placed file reversed segment :: reversed
    if rest.isEmpty && (isUp segment || isHere segment) then ([] :: reached).reverse
    else walk file reached rest

/-- The path that a text with slashes spells; a slash in front of it is no segment. -/
def segmentsOf (special file : Bool) (text : List Char) : UrlPath :=
  let inner := match text with
    | c :: rest => if isSlash special c then rest else c :: rest
    | [] => []
  let list := walk file [] (Text.separated (isSlash special) inner)
  let list := if file then
      let trimmed := list.dropWhile List.isEmpty
      if trimmed.isEmpty then [[]] else trimmed
    else list
  .segments (list.map String.ofList)

/-- The path behind an authority; only one that is not special may lack it. -/
def pathBehind (scheme : String) (text : List Char) : UrlPath :=
  if text.isEmpty && !isSpecial scheme then .segments []
  else segmentsOf (isSpecial scheme) false text

/-- The authority and the path of a file. -/
def file? (text : List Char) : Option (Option Authority × UrlPath) :=
  let here : Authority := ⟨"", "", .empty, none⟩
  match text with
  | a :: b :: rest =>
    if isSlash true a && isSlash true b then
      let hostText := rest.takeWhile fun c => !isSlash true c
      if hostText.isEmpty || isDrive hostText then some (some here, segmentsOf true true rest)
      else do
        let host ← Host.special? hostText
        let host := if host = .name "localhost" then .empty else host
        some (some { here with host },
          segmentsOf true true (rest.dropWhile fun c => !isSlash true c))
    else some (some here, segmentsOf true true text)
  | _ => some (some here, segmentsOf true true text)

/-- The authority and the path of a URL. -/
def place? (scheme : String) (text : List Char) : Option (Option Authority × UrlPath) :=
  if scheme = "file" then file? text
  else if isSpecial scheme then do
    let rest := text.dropWhile (isSlash true)
    let authority ← authority? scheme (rest.takeWhile fun c => !isSlash true c)
    some (some authority, pathBehind scheme (rest.dropWhile fun c => !isSlash true c))
  else
    match text with
    | '/' :: '/' :: rest => do
      let authority ← authority? scheme (rest.takeWhile (· ≠ '/'))
      some (some authority, pathBehind scheme (rest.dropWhile (· ≠ '/')))
    | '/' :: _ => some (none, segmentsOf false false text)
    | _ => some (none, .plain (String.ofList (Percent.encode Percent.isControl text)))

/-- The URL that a text spells. -/
def read? (text : String) : Option Url := do
  let (scheme, rest) ← scheme? (cleaned text.toList)
  let (rest, fragment) := cut '#' rest
  let (rest, query) := cut '?' rest
  let (authority, path) ← place? scheme rest
  let inQuery := if isSpecial scheme then Percent.inSpecialQuery else Percent.inQuery
  some
    { scheme
      authority
      path
      query := query.map fun text => String.ofList (Percent.encode inQuery text)
      fragment := fragment.map fun text => String.ofList (Percent.encode Percent.inFragment text) }

/-- How an authority is written. -/
def writeAuthority (authority : Authority) : String :=
  let password := if authority.password.isEmpty then "" else ":" ++ authority.password
  let who := authority.user ++ password
  let mark := if who.isEmpty then "" else "@"
  let port := match authority.port with
    | none => ""
    | some number => ":" ++ Numeral.decimal number
  who ++ mark ++ authority.host.write ++ port

/-- How a path is written. A dot keeps empty first segments from being read as a host. -/
def writePath (hosted : Bool) : UrlPath → String
  | .plain text => text
  | .segments list =>
    let mark := if !hosted && list.head? = some "" && 1 < list.length then "/." else ""
    mark ++ String.join (list.map ("/" ++ ·))

/-- The normal form of a URL. -/
def write (url : Url) : String :=
  let authority := match url.authority with
    | none => ""
    | some authority => "//" ++ writeAuthority authority
  let query := match url.query with
    | none => ""
    | some text => "?" ++ text
  let fragment := match url.fragment with
    | none => ""
    | some text => "#" ++ text
  url.scheme ++ ":" ++ authority ++ writePath url.authority.isSome url.path ++ query ++ fragment

end Url

end ChannelWatch
