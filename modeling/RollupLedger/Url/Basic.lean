import RollupLedger.Url.Host

/-!
Web addresses. Reading one brings it into a normal form: scheme and host in lower case, no service
number where it is the scheme's own, no dot segments in the path, and everything escaped that may
not stand as itself. An address must name its scheme; one of a special scheme must have a host, and
has a path.
-/

set_option autoImplicit false
set_option relaxedAutoImplicit false

namespace RollupLedger

/-- Whom an address leads to: a host, the number of a service on it, and as whom. -/
structure Url.Authority where
  user : String
  password : Option String
  host : Url.Host
  service : Option Nat
deriving DecidableEq, Repr

structure Url where
  scheme : String
  authority : Option Url.Authority
  path : String
  query : Option String
  fragment : Option String
deriving DecidableEq, Repr

namespace Url

/-! ### Schemes -/

/-- The service number that a scheme uses if no other is named. -/
def defaultService? : String → Option Nat
  | "http" => some 80
  | "ws" => some 80
  | "https" => some 443
  | "wss" => some 443
  | "ftp" => some 21
  | _ => none

def isSpecial (scheme : String) : Bool := (defaultService? scheme).isSome || scheme == "file"

def isSchemeChar (c : Char) : Bool := c.isAlphanum || c == '+' || c == '-' || c == '.'

/-- The scheme before the first colon, in lower case, and what follows. -/
def splitScheme? (cs : List Char) : Option (String × List Char) :=
  match cs with
  | [] => none
  | first :: _ =>
    match cs.takeWhile isSchemeChar, cs.dropWhile isSchemeChar with
    | scheme, ':' :: rest =>
      if first.isAlpha then some (String.ofList (lowered scheme), rest) else none
    | _, _ => none

/-! ### The path and what follows it -/

/-- Whether a character ends a part of the path. -/
def isSlash (special : Bool) (c : Char) : Bool := c == '/' || (special && c == '\\')

/-- Whether a character ends the authority. -/
def endsAuthority (special : Bool) (c : Char) : Bool := isSlash special c || c == '?' || c == '#'

/-- Whether a character ends the path. -/
def endsPath (c : Char) : Bool := c == '?' || c == '#'

def isSingleDot (segment : List Char) : Bool :=
  [".", "%2e"].contains (String.ofList (lowered segment))

def isDoubleDot (segment : List Char) : Bool :=
  ["..", ".%2e", "%2e.", "%2e%2e"].contains (String.ofList (lowered segment))

/-- The segments of a path between its slashes. -/
def segments (special : Bool) (cs : List Char) : List (List Char) :=
  splitAt '/' (cs.map fun c => if isSlash special c then '/' else c)

/-- A drive is a letter with a colon or a bar. -/
def isDrive : List Char → Bool
  | [letter, mark] => letter.isAlpha && (mark == ':' || mark == '|')
  | _ => false

/-- Goes back from the segment that was taken in last, but not from a drive. -/
def goBack : (taken : List (List Char)) → List (List Char)
  | [] => []
  | last :: before => if isDrive last then last :: before else before

/-- Takes a segment in. A drive at the head of a file's path gets a colon. -/
def take (scheme : String) (taken : List (List Char)) (segment : List Char) : List (List Char) :=
  let segment := escape .path segment
  if scheme = "file" ∧ taken.isEmpty ∧ isDrive segment then [segment.take 1 ++ [':']]
  else segment :: taken

/-- Takes the segments of a path in; a dot segment keeps the place where it is, a double one goes
back from it. -/
def normalSegments (scheme : String) : (taken : List (List Char)) → List (List Char) →
    List (List Char)
  | taken, [] => taken.reverse
  | taken, [last] =>
    if isDoubleDot last then ([] :: goBack taken).reverse
    else if isSingleDot last then ([] :: taken).reverse
    else (take scheme taken last).reverse
  | taken, segment :: rest =>
    if isDoubleDot segment then normalSegments scheme (goBack taken) rest
    else if isSingleDot segment then normalSegments scheme taken rest
    else normalSegments scheme (take scheme taken segment) rest

/-- The segments of a path, given by its text with or without the first slash. -/
def pathSegments (scheme : String) (cs : List Char) : List (List Char) :=
  let special := isSpecial scheme
  normalSegments scheme [] <| segments special <|
    match cs with
    | [] => []
    | c :: rest => if isSlash special c then rest else c :: rest

/-- A path of segments. A file's begins with a single slash. -/
def pathText (scheme : String) (segments : List (List Char)) : String :=
  let segments := if scheme = "file" then segments.dropWhile List.isEmpty else segments
  String.ofList ('/' :: ['/'].intercalate segments)

/-- The path of an address with an authority. -/
def pathAfterAuthority (scheme : String) (cs : List Char) : String :=
  if cs.isEmpty && !isSpecial scheme then "" else pathText scheme (pathSegments scheme cs)

/-- The query and the fragment, given by what follows the path. -/
def tailOf (special : Bool) (cs : List Char) : Option String × Option String :=
  let readQuery (cs : List Char) : String :=
    String.ofList (escape (if special then .specialQuery else .query) cs)
  let readFragment (cs : List Char) : String := String.ofList (escape .fragment cs)
  match cs with
  | '?' :: rest =>
    (some (readQuery (rest.takeWhile (· ≠ '#'))),
      match rest.dropWhile (· ≠ '#') with
      | _ :: fragment => some (readFragment fragment)
      | [] => none)
  | '#' :: rest => (none, some (readFragment rest))
  | _ => (none, none)

/-! ### The authority -/

/-- The text before the last sign `@`, if there is one, and the text after it. -/
def splitUser (cs : List Char) : Option (List Char) × List Char :=
  match (cs.reverse.dropWhile (· ≠ '@')) with
  | [] => (none, cs)
  | _ :: user => (some user.reverse, (cs.reverse.takeWhile (· ≠ '@')).reverse)

/-- The user's name and password. -/
def readUser (cs : List Char) : String × Option String :=
  let text (cs : List Char) : String := String.ofList (escape .user cs)
  match cs.dropWhile (· ≠ ':') with
  | [] => (text cs, none)
  | _ :: password =>
    (text (cs.takeWhile (· ≠ ':')), if password.isEmpty then none else some (text password))

/-- The host's text, which ends at a colon that is not between brackets, and what follows. -/
def splitHost : (inside : Bool) → List Char → List Char × List Char
  | _, [] => ([], [])
  | inside, c :: rest =>
    if c = ':' ∧ !inside then ([], c :: rest)
    else
      let inside := if c = '[' then true else if c = ']' then false else inside
      let (host, after) := splitHost inside rest
      (c :: host, after)

/-- The service number after a host's colon, unless it is the scheme's own. -/
def readService (scheme : String) (cs : List Char) : Option (Option Nat) :=
  match cs with
  | ':' :: digits =>
    if !digits.all Char.isDigit then none
    else if digits.isEmpty then some none
    else
      let number := digits.foldl (fun n c => n * 10 + (c.toNat - '0'.toNat)) 0
      if 65535 < number then none
      else some (if defaultService? scheme = some number then none else some number)
  | _ => some none

def readAuthority (scheme : String) (cs : List Char) : Option Authority :=
  let special := isSpecial scheme
  let (user, cs) := splitUser cs
  let (name, password) := (user.map readUser).getD ("", none)
  let (host, service) := splitHost false cs
  if host.isEmpty ∧ (special ∨ !service.isEmpty ∨ user.isSome) then none
  else
    let host := if special then Host.readSpecial host else Host.readPlain host
    match host, readService scheme service with
    | some host, some service => some ⟨name, password, host, service⟩
    | _, _ => none

/-- The host of a file, which is empty for this one. -/
def readFileHost (cs : List Char) : Option Host :=
  if cs.isEmpty then some (.name "")
  else (Host.readSpecial cs).map fun host => if host = .name "localhost" then .name "" else host

/-! ### The whole address -/

/-- An address with an authority, given by what follows the slashes before it. -/
def readHierarchical (scheme : String) (cs : List Char) : Option Url :=
  let special := isSpecial scheme
  let rest := cs.dropWhile (!endsAuthority special ·)
  let (query, fragment) := tailOf special (rest.dropWhile (!endsPath ·))
  (readAuthority scheme (cs.takeWhile (!endsAuthority special ·))).map fun authority =>
    let path := pathAfterAuthority scheme (rest.takeWhile (!endsPath ·))
    ⟨scheme, some authority, path, query, fragment⟩

/-- The address of a file, given by what follows two slashes. A drive may stand in the place of the
host, and a path that begins with one has no host. -/
def readFile (cs : List Char) : Option Url :=
  let beforeSlash := cs.takeWhile (!endsAuthority true ·)
  let host := if isDrive beforeSlash then [] else beforeSlash
  let rest := cs.drop host.length
  let (query, fragment) := tailOf true (rest.dropWhile (!endsPath ·))
  let path := pathSegments "file" (rest.takeWhile (!endsPath ·))
  (readFileHost host).map fun host =>
    let host := if path.head?.any isDrive then .name "" else host
    ⟨"file", some ⟨"", none, host, none⟩, pathText "file" path, query, fragment⟩

/-- An address without an authority: a path, or any text where it does not begin with a slash. -/
def readPathOnly (scheme : String) (cs : List Char) : Url :=
  let (query, fragment) := tailOf false (cs.dropWhile (!endsPath ·))
  let path := match cs.takeWhile (!endsPath ·) with
    | '/' :: rest => pathText scheme (pathSegments scheme ('/' :: rest))
    | path => String.ofList (escape .loose path)
  ⟨scheme, none, path, query, fragment⟩

/-- An address of a special scheme may have any number of slashes before its host, a file's at most
two. -/
def readAfterScheme (scheme : String) (cs : List Char) : Option Url :=
  if (defaultService? scheme).isSome then readHierarchical scheme (cs.dropWhile (isSlash true))
  else if scheme = "file" then
    match cs with
    | a :: b :: rest =>
      if isSlash true a && isSlash true b then readFile rest
      else readFile ('/' :: cs.dropWhile (isSlash true))
    | _ => readFile ('/' :: cs.dropWhile (isSlash true))
  else
    match cs with
    | '/' :: '/' :: rest => readHierarchical scheme rest
    | _ => some (readPathOnly scheme cs)

def isSpaceOrControl (c : Char) : Bool := c.toNat ≤ 0x20

/-- Reads an address. Spaces and controls around it do not count, nor do line breaks and tabs in
it. -/
def read (text : String) : Option Url :=
  let trimmed :=
    ((text.toList.dropWhile isSpaceOrControl).reverse.dropWhile isSpaceOrControl).reverse
  (splitScheme? (trimmed.filter fun c => c ≠ '\t' ∧ c ≠ '\n' ∧ c ≠ '\r')).bind
    fun (scheme, rest) => readAfterScheme scheme rest

namespace Authority

def write (a : Authority) : String :=
  let password := match a.password with
    | some password => ":" ++ password
    | none => ""
  let user := a.user ++ password
  let service := match a.service with
    | some service => ":" ++ toString service
    | none => ""
  (if user.isEmpty then "" else user ++ "@") ++ a.host.write ++ service

end Authority

/-- The text of an address. -/
def write (url : Url) : String :=
  let head := match url.authority with
    | some authority => "//" ++ authority.write
    | none => if url.path.startsWith "//" then "/." else ""
  let optional (mark : String) (part : Option String) : String :=
    match part with
    | some text => mark ++ text
    | none => ""
  url.scheme ++ ":" ++ head ++ url.path ++ optional "?" url.query ++ optional "#" url.fragment

end Url

end RollupLedger
