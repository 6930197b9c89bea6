import StyledMarkdown.Url.Host
import StyledMarkdown.Url.Path
/-!
# Reading and writing a URL

A URL is read leniently and written in one form: the scheme and the name
of the host in lower case, no number of a service that the scheme
implies, a path without dots, and every character encoded that has to be.
-/

namespace StyledMarkdown

/-- Who is asked for a resource, and as whom. Both parts of the
credentials are encoded. -/
structure Url.Authority where
  username : List Char := []
  password : List Char := []
  host : Url.Host := .domain []
  /-- The number of the service at the host, if the scheme does not imply it. -/
  service : Option Nat := none

structure Url where
  scheme : List Char
  authority : Option Url.Authority := none
  path : List Char
  query : Option (List Char) := none
  fragment : Option (List Char) := none

namespace Url

/-! ## Writing -/

def Authority.toText (a : Authority) : List Char :=
  let password := if a.password.isEmpty then [] else ':' :: a.password
  let credentials := a.username ++ password
  (if credentials.isEmpty then [] else credentials ++ ['@']) ++ a.host.toText ++
    match a.service with
    | some service => ':' :: Nat.toDigits 10 service
    | none => []

/-- The written form. A path that begins like an authority has a dot in
front. -/
def toText (url : Url) : List Char :=
  let authority := match url.authority, url.path with
    | some authority, _ => '/' :: '/' :: authority.toText
    | none, '/' :: '/' :: _ => ['/', '.']
    | none, _ => []
  let part (mark : Char) (text : Option (List Char)) : List Char := (text.map (mark :: ·)).getD []
  url.scheme ++ ':' :: authority ++ url.path ++ part '?' url.query ++ part '#' url.fragment

/-! ## Reading -/

/-- The scheme in front of a colon, and what follows. -/
def scheme? (cs : List Char) : Option (List Char × List Char) :=
  let isPart (c : Char) : Bool := c.isAlphanum || c == '+' || c == '-' || c == '.'
  let scheme := cs.takeWhile isPart
  match scheme, cs.drop scheme.length with
  | first :: _, ':' :: rest => if first.isAlpha then some (scheme.map Char.toLower, rest) else none
  | _, _ => none

def SchemeKind.ofScheme (scheme : List Char) : SchemeKind :=
  match String.ofList scheme with
  | "http" | "ws" => .special 80
  | "https" | "wss" => .special 443
  | "ftp" => .special 21
  | "file" => .file
  | _ => .other

/-- What stands before a character, and what behind it if it is there. -/
def cutAt (mark : Char) (cs : List Char) : List Char × Option (List Char) :=
  match cs.dropWhile (· != mark) with
  | _ :: rest => (cs.takeWhile (· != mark), some rest)
  | [] => (cs, none)

/-- The credentials in front of the last at sign, and the host and its
service behind it. -/
def cutCredentials (cs : List Char) : Option (List Char) × List Char :=
  let host := (cs.reverse.takeWhile (· != '@')).reverse
  if host.length = cs.length then (none, cs)
  else (some (cs.take (cs.length - host.length - 1)), host)

/-- A host up to the first colon outside brackets; `nested` inside them. -/
def takeHost (nested : Bool) : List Char → List Char
  | [] => []
  | ':' :: rest => if nested then ':' :: takeHost nested rest else []
  | '[' :: rest => '[' :: takeHost true rest
  | ']' :: rest => ']' :: takeHost false rest
  | c :: rest => c :: takeHost nested rest

/-- The number of a service, none where it goes without saying, and what
follows its digits. It has sixteen bits. -/
def service? (kind : SchemeKind) (cs : List Char) : Option (Option Nat × List Char) :=
  let digits := cs.takeWhile Char.isDigit
  let rest := cs.dropWhile Char.isDigit
  let number := Numeral.value 10 digits
  if 65535 < number || !(rest.isEmpty || rest.head? == some '\\') then none
  else if digits.isEmpty || kind = .special number then some (none, rest)
  else some (some number, rest)

/-- **An authority**, and what follows it. `ended` when nothing at
all follows it in the URL. -/
def authority? (kind : SchemeKind) (ended : Bool) (cs : List Char) :
    Option (Authority × List Char) := do
  let (credentials, rest) := cutCredentials cs
  if credentials == some [] && rest.isEmpty && !ended then none
  let (username, password) := cutAt ':' (credentials.getD [])
  let username := encode escapesInUserinfo username
  let password := encode escapesInUserinfo (password.getD [])
  let name := takeHost false rest
  if name.isEmpty && (kind.isSpecial || rest.head? == some ':') then none
  let host ← if kind.isSpecial then Host.parse? name else Host.parseOpaque? name
  if host.isEmpty && !(username.isEmpty && password.isEmpty) then none
  let (service, rest) ← match rest.drop name.length with
    | ':' :: digits => service? kind digits
    | rest => some (none, rest)
  return (⟨username, password, host, service⟩, rest)

/-- A URL from its authority on, without its query and fragment. -/
def withAuthority? (kind : SchemeKind) (scheme : List Char) (ended : Bool) (cs : List Char) :
    Option Url := do
  let isEnd (c : Char) : Bool := kind.isSlash c
  let inside := cs.takeWhile (!isEnd ·)
  let behind := cs.drop inside.length
  let (authority, rest) ← authority? kind (ended && behind.isEmpty) inside
  let path := match rest ++ behind with
    | [] => if kind.isSpecial then ['/'] else []
    | c :: rest => (normalPath kind (if kind.isSlash c then rest else c :: rest)).1
  return { scheme, authority, path }

/-- The host of a file and the path behind it. A drive is no host, and the
local host goes without saying. -/
def fileAuthority? (cs : List Char) : Option (Host × List Char) := do
  let name := cs.takeWhile (!SchemeKind.file.isSlash ·)
  if isDriveLetter name then return (.domain [], cs)
  let rest := cs.drop name.length
  if name.isEmpty then return (.domain [], rest)
  let host ← Host.parse? name
  return (if host = .domain "localhost".toList then .domain [] else host, rest)

/-- The URL of a file, without its query and fragment. -/
def file? (cs : List Char) : Option Url := do
  let slashes := (cs.take 2).takeWhile SchemeKind.file.isSlash
  let rest := cs.drop slashes.length
  let (host, rest) ← if slashes.length = 2 then fileAuthority? rest else some (.domain [], rest)
  let rest := match rest with
    | c :: behind => if !host.isEmpty && SchemeKind.file.isSlash c then behind else rest
    | [] => []
  let (path, drive) := normalPath .file rest
  return { scheme := "file".toList
           authority := some { host := if drive then .domain [] else host }
           path }

/-- **Reads a URL.** Controls and blanks around it do not count, nor do
tabs and line ends in it. -/
def parse? (text : List Char) : Option Url := do
  let isMargin (c : Char) : Bool := c.toNat ≤ 0x20
  let trimmed := ((text.dropWhile isMargin).reverse.dropWhile isMargin).reverse
  let cs := trimmed.filter fun c => c != '\t' && c != '\n' && c != '\r'
  let (scheme, rest) ← scheme? cs
  let (rest, fragment) := cutAt '#' rest
  let (rest, query) := cutAt '?' rest
  let ended := query.isNone && fragment.isNone
  let kind := SchemeKind.ofScheme scheme
  let url : Url ← match kind, rest with
    | .file, rest => file? rest
    | .special _, rest => withAuthority? kind scheme ended (rest.dropWhile kind.isSlash)
    | .other, '/' :: '/' :: rest => withAuthority? kind scheme ended rest
    | .other, '/' :: rest => some { scheme, path := (normalPath kind rest).1 }
    | .other, rest => some { scheme, path := encode isControl rest }
  let escapes := if kind.isSpecial then escapesInSpecialQuery else escapesInQuery
  return { url with
    query := query.map (encode escapes)
    fragment := fragment.map (encode escapesInFragment) }

end Url

end StyledMarkdown
