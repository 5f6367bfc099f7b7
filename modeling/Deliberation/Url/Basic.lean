import Deliberation.Url.Host
import Deliberation.Url.Path
import Deliberation.Url.Tail
/-! Absolute URLs: reading them, and their one written form. Reading leaves out the blanks at the ends
and all tabs and line endings, and resolves and escapes what has another form. -/

namespace Deliberation

structure Url where
  /-- The scheme in lowercase. -/
  scheme : String
  /-- The name before the host, which is empty where there is none. -/
  user : String := ""
  /-- The password before the host. -/
  password : Option String := none
  /-- The host, where the scheme is followed by one. -/
  host : Option Host := none
  /-- The number of the service, where it is not the one of the scheme. -/
  service : Option UInt16 := none
  path : String := ""
  query : Option String := none
  fragment : Option String := none
deriving DecidableEq, Repr

namespace Url

/-- The services of schemes of the web. Their URLs all have a host. -/
def schemeService? (scheme : String) : Option UInt16 :=
  match scheme with
  | "http" | "ws" => some 80
  | "https" | "wss" => some 443
  | "ftp" => some 21
  | _ => none

def isOfWeb (scheme : String) : Bool :=
  (schemeService? scheme).isSome

def isOfFile (scheme : String) : Bool :=
  scheme == "file"

/-- Whether every path of a scheme begins with a slash, and a backslash is one. -/
def isSpecial (scheme : String) : Bool :=
  isOfWeb scheme || isOfFile scheme

def isSlash (special : Bool) (c : Char) : Bool :=
  c = '/' || (special && c = '\\')

def endsAuthority (special : Bool) (c : Char) : Bool :=
  isSlash special c || endsPath c

/-- The text that is read: without blanks and controls at its ends, tabs and line endings. -/
def significant (text : List Char) : List Char :=
  (Text.dropEndWhile (· ≤ ' ') (text.dropWhile (· ≤ ' '))).filter fun c =>
    c ≠ '\t' && c ≠ '\n' && c ≠ '\r'

def isSchemeText (text : List Char) : Bool :=
  text.head?.any Char.isAlpha &&
    text.all fun c => c.isAlphanum || c = '+' || c = '-' || c = '.'

def scheme? (text : List Char) : Option (String × List Char) :=
  match Text.cut? ':' text with
  | some (name, rest) =>
    if isSchemeText name then some (String.ofList (name.map Char.toLower), rest) else none
  | none => none

/-- The path in a written form from its first slash on. A URL without a host may have another one. -/
def pathOf (u : Url) (path : List Char) : List Char :=
  let special := isSpecial u.scheme
  match path with
  | [] => if special then ['/'] else []
  | c :: rest =>
    if isSlash special c then Path.text (Path.segments (isSlash special) rest)
    else if special ∨ u.host.isSome then Path.text (Path.segments (isSlash special) (c :: rest))
    else escape [] (c :: rest)

/-- The URL of a file with its path in a written form. It begins with one slash. The letter of a
drive has a colon, and no host before it. -/
def withFilePath (u : Url) (path : List Char) : Url :=
  let rest := match path with
    | c :: rest => if isSlash true c then rest else c :: rest
    | [] => []
  match Path.segments (isSlash true) rest with
  | first :: others =>
    if Path.isDrive first then
      { u with
        host := none
        path := String.ofList (Path.text ((first.take 1 ++ [':']) :: others)) }
    else { u with path := String.ofList ('/' :: (Path.text (first :: others)).dropWhile (· = '/')) }
  | [] => { u with path := "/" }

def withTail (u : Url) (text : List Char) : Url :=
  let tail := Tail.ofText text
  let u := if isOfFile u.scheme then u.withFilePath tail.path
    else { u with path := String.ofList (u.pathOf tail.path) }
  let queryEscapes := " \"#<>".toList ++ if isSpecial u.scheme then ['\x27'] else []
  { u with
    query := tail.query.map fun query => String.ofList (escape queryEscapes query)
    fragment := tail.fragment.map fun fragment =>
      String.ofList (escape " \"<>\x60".toList fragment) }

/-- What stands before the last at sign, where there is one, and what stands behind it. -/
def cutUser (authority : List Char) : Option (List Char) × List Char :=
  if authority.contains '@' then
    (some ((Text.dropEndWhile (· ≠ '@') authority).dropLast),
      (authority.reverse.takeWhile (· ≠ '@')).reverse)
  else (none, authority)

/-- A host, and what follows a colon behind it. Brackets hide colons. -/
def cutService (inside : Bool) : List Char → List Char × Option (List Char)
  | [] => ([], none)
  | c :: rest =>
    if c = ':' ∧ !inside then ([], some rest)
    else
      let (host, service) := cutService (c = '[' || (inside && c ≠ ']')) rest
      (c :: host, service)

/-- The number of a service in decimal. None is left out, as is that of the scheme. -/
def service? (scheme : String) (digits : List Char) : Option (Option UInt16) :=
  let n := Numeral.digitsValue digits
  if !digits.all Numeral.isDigit || n ≥ UInt16.size then none
  else if digits = [] ∨ schemeService? scheme = some (UInt16.ofNat n) then some none
  else some (some (UInt16.ofNat n))

def userText (text : List Char) : String :=
  String.ofList (escape (Path.escapes ++ "/:;=@[\\]^|".toList) text)

/-- The name in what stands before an at sign, and the password, where it is not empty. -/
def splitUser (text : List Char) : String × Option String :=
  match Text.cut? ':' text with
  | none => (userText text, none)
  | some (name, []) => (userText name, none)
  | some (name, word) => (userText name, some (userText word))

def ofAuthority? (scheme : String) (rest : List Char) : Option Url := do
  let web := isOfWeb scheme
  let behind := rest.dropWhile fun c => !endsAuthority web c
  let (userPart, place) := cutUser (rest.takeWhile fun c => !endsAuthority web c)
  let (hostText, serviceText) := cutService false place
  let host ← if web then Host.ofWeb? hostText else Host.ofOther? hostText
  let (user, password) := splitUser (userPart.getD [])
  if userPart = some [] ∧ place = [] ∧ behind ≠ [] then none
  else if hostText = [] ∧ (serviceText.isSome ∨ user ≠ "" ∨ password.isSome) then none
  else
    let digits := (serviceText.getD []).takeWhile (· ≠ '\\')
    let tail := (serviceText.getD []).dropWhile (· ≠ '\\')
    let service ← service? scheme digits
    some (withTail { scheme, user, password, host := some host, service } (tail ++ behind))

/-- Reads the host of a file and what follows it. The letter of a drive is no host, and this machine
needs none. -/
def ofFileHost? (rest : List Char) : Option Url :=
  let label := rest.takeWhile fun c => !endsAuthority true c
  let file : Url := { scheme := "file" }
  if Path.isDrive label then some (file.withTail rest)
  else
    let behind := rest.dropWhile fun c => !endsAuthority true c
    if label = [] then some (file.withTail behind)
    else match Host.ofWeb? label with
      | none => none
      | some host =>
        if host = .name "localhost" then some (file.withTail behind)
        else some ({ file with host := some host }.withTail behind)

def parse? (text : String) : Option Url := do
  let (scheme, rest) ← scheme? (significant text.toList)
  if isOfWeb scheme then ofAuthority? scheme (rest.dropWhile (isSlash true))
  else if isOfFile scheme then
    if (rest.take 2).length = 2 ∧ (rest.take 2).all (isSlash true) then ofFileHost? (rest.drop 2)
    else some (withTail { scheme } rest)
  else match Text.after? "//".toList rest with
    | some rest => ofAuthority? scheme rest
    | none => some (withTail { scheme } rest)

def target (u : Url) : String :=
  u.path ++ (u.query.map ("?" ++ ·)).getD ""

def authority (u : Url) : String :=
  (u.host.map Host.text).getD "" ++ (u.service.map fun n => ":" ++ toString n.toNat).getD ""

def userPart (u : Url) : String :=
  if u.user = "" ∧ u.password = none then ""
  else u.user ++ (u.password.map (":" ++ ·)).getD "" ++ "@"

def hasHost (u : Url) : Bool :=
  u.host.any fun host => host.text ≠ ""

/-- What stands between the scheme and the path. A path that begins with two slashes could be taken
for a host. -/
def place (u : Url) : String :=
  if u.host.isSome ∨ isOfFile u.scheme then "//" ++ u.userPart ++ u.authority
  else if (Text.after? "//".toList u.path.toList).isSome then "/."
  else ""

def text (u : Url) : String :=
  u.scheme ++ ":" ++ u.place ++ u.target ++ (u.fragment.map ("#" ++ ·)).getD ""

def serviceNumber (u : Url) : UInt16 :=
  (u.service.or (schemeService? u.scheme)).getD 0

def withoutFragment (u : Url) : Url :=
  { u with fragment := none }

/-- The name and the password that a URL holds, where there are any. A name that is no text hides
both, and a password that is none is none. -/
def credentials? (u : Url) : Option (String × Option String) := do
  let name ← unescape? u.user.toList
  let word := u.password.bind fun word => unescape? word.toList
  if name ≠ [] ∨ word.isSome then some (String.ofList name, word.map String.ofList) else none

def withoutCredentials (u : Url) : Url :=
  if u.credentials?.isSome then { u with user := "", password := none } else u

end Url

end Deliberation
