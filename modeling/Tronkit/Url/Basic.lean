import Tronkit.Url.Host
import Tronkit.Url.Path

/-!
# URLs

A URL in its parts and its normal text. `parse` reads an absolute URL: it trims blanks and
controls, lowers the scheme, drops the port that the scheme implies, resolves the dot segments of
the path and encodes what a part may not hold.
-/

namespace Tronkit

structure Url where
  scheme : String
  username : String
  password : String
  host : Option Host
  port : Option Nat
  path : String
  query : Option String
  fragment : Option String
  deriving DecidableEq, Repr

namespace Url

open UrlPath (isHidden isLetter isSlash)

def defaultPort? : String → Option Nat
  | "http" => some 80
  | "ws" => some 80
  | "https" => some 443
  | "wss" => some 443
  | "ftp" => some 21
  | _ => none

def isSpecial (scheme : String) : Bool := scheme = "file" || (defaultPort? scheme).isSome

def credentials (u : Url) : String :=
  if u.username = "" && u.password = "" then ""
  else u.username ++ (if u.password = "" then "" else ":" ++ u.password) ++ "@"

/-- Without a host, a path that begins with two slashes is set apart from where a host would be. -/
def authority (u : Url) : String :=
  match u.host with
  | some h =>
    "//" ++ u.credentials ++ h.text
      ++ (match u.port with
          | some p => ":" ++ decimalText p
          | none => "")
  | none => if u.path.toList.take 2 = ['/', '/'] then "/." else ""

def text (u : Url) : String :=
  u.scheme ++ ":" ++ u.authority ++ u.path
    ++ (match u.query with
        | some q => "?" ++ q
        | none => "")
    ++ (match u.fragment with
        | some f => "#" ++ f
        | none => "")

def isReadable (s : String) : Bool := (Utf8.decode? (Percent.decode s.toList)).isSome

def withoutCredentials (u : Url) : Url :=
  if isReadable u.username && (u.username ≠ "" || (u.password ≠ "" && isReadable u.password)) then
    { u with username := "", password := "" }
  else u

def isBlank (c : Char) : Bool := c.toNat ≤ 0x20

def trim (cs : List Char) : List Char :=
  ((cs.dropWhile isBlank).reverse.dropWhile isBlank).reverse

def isSchemeChar (c : Char) : Bool :=
  isLetter c || Digits.isDecimal c || c = '+' || c = '-' || c = '.'

def scheme? (cs : List Char) : Option (String × List Char) :=
  if cs.head?.any isLetter then
    match cs.dropWhile isSchemeChar with
    | ':' :: rest => some (String.ofList ((cs.takeWhile isSchemeChar).map Char.toLower), rest)
    | _ => none
  else none

def splitUser (cs : List Char) : Option (List Char) × List Char :=
  let host := (cs.reverse.takeWhile (· ≠ '@')).reverse
  if host.length = cs.length then (none, host)
  else (some (cs.take (cs.length - host.length - 1)), host)

/-- Cuts at the first colon outside square brackets. -/
def splitPort : (inside : Bool) → List Char → List Char × Option (List Char)
  | _, [] => ([], none)
  | inside, c :: cs =>
    if c = ':' && !inside then ([], some cs)
    else
      let (host, port) := splitPort (if c = '[' then true else if c = ']' then false else inside) cs
      (c :: host, port)

/-- A port and what follows it, which begins with a backslash or is empty. -/
def readPort (scheme : String) (cs : List Char) : Except UrlFault (Option Nat × List Char) :=
  let digits := cs.takeWhile Digits.isDecimal
  let rest := cs.dropWhile Digits.isDecimal
  let n := Digits.fold 10 (digits.filterMap (Digits.value? 10))
  if 65535 < n || (rest ≠ [] && rest.head? ≠ some '\\') then .error .invalidPort
  else if digits = [] || defaultPort? scheme = some n then .ok (none, rest)
  else .ok (some n, rest)

structure Authority where
  username : String
  password : String
  host : Host
  port : Option Nat
  rest : List Char

/-- Reads an authority; `followed` tells that something comes behind it. A host may be empty
only if the scheme is not special and nothing else stands in the authority. -/
def readAuthority (scheme : String) (followed : Bool) (cs : List Char) :
    Except UrlFault Authority :=
  let (user, hostPort) := splitUser cs
  let (account, secret) := Split.first ':' (user.getD [])
  let username := String.ofList (Percent.encode Percent.inUserinfo account)
  let password := String.ofList (Percent.encode Percent.inUserinfo (secret.getD []))
  let (hostText, portText) := splitPort false hostPort
  let special := isSpecial scheme
  let crowded := special || portText.isSome || username ≠ "" || password ≠ ""
  if (user = some [] && hostPort = [] && followed) || (hostText = [] && crowded) then
    .error .emptyHost
  else do
    let host ← if special then Host.parse hostText else Host.parseOpaque hostText
    let (port, rest) ← match portText with
      | some digits => readPort scheme digits
      | none => .ok (none, [])
    pure ⟨username, password, host, port, rest⟩

def withAuthority (scheme : String) (followed : Bool) (cs : List Char)
    (query fragment : Option String) : Except UrlFault Url := do
  let special := isSpecial scheme
  let path := cs.dropWhile (!isSlash special ·)
  let a ← readAuthority scheme (followed || path ≠ []) (cs.takeWhile (!isSlash special ·))
  let path := a.rest ++ path
  let rest := if path.head?.any (isSlash special) then path.drop 1 else path
  let path := if !special && path = [] then [] else UrlPath.follow special ['/'] rest
  pure ⟨scheme, a.username, a.password, some a.host, a.port, String.ofList path, query, fragment⟩

def localhost : Host := .name "localhost"

def afterSlash? (cs : List Char) : Option (List Char) :=
  match cs.dropWhile isHidden with
  | c :: rest => if isSlash true c then some rest else none
  | [] => none

/-- The host of a file, which is empty if the file is here, and the path with where it starts. A
drive is never a host. -/
def fileHost (cs : List Char) : Except UrlFault (Host × List Char × List Char) :=
  match afterSlash? cs with
  | none => .ok (.name "", ['/'], cs)
  | some single =>
    match afterSlash? single with
    | none => .ok (.name "", [], cs)
    | some rest =>
      let hostText := (rest.takeWhile (!isSlash true ·)).filter (!isHidden ·)
      let path := rest.dropWhile (!isSlash true ·)
      if UrlPath.isDrive hostText then .ok (.name "", ['/'], rest)
      else if hostText = [] then .ok (.name "", ['/'], path)
      else do
        let host ← Host.parse hostText
        pure (if host = localhost then (.name "", ['/'], path) else (host, ['/'], path.drop 1))

def fileUrl (cs : List Char) (query fragment : Option String) : Except UrlFault Url := do
  let (host, root, rest) ← fileHost cs
  let (path, drive) := UrlPath.followFile root rest
  let host := if drive then .name "" else host
  pure ⟨"file", "", "", some host, none, String.ofList path, query, fragment⟩

def otherUrl (scheme : String) (followed : Bool) (cs : List Char)
    (query fragment : Option String) : Except UrlFault Url :=
  match cs with
  | '/' :: '/' :: rest => withAuthority scheme followed rest query fragment
  | '/' :: rest =>
    let path := String.ofList (UrlPath.follow false ['/'] rest)
    .ok ⟨scheme, "", "", none, none, path, query, fragment⟩
  | cs =>
    let path := String.ofList (Percent.encode Percent.isControl cs)
    .ok ⟨scheme, "", "", none, none, path, query, fragment⟩

/-- Reads an absolute URL. In a file URL, a hidden character can part a drive from the text behind
it. -/
def parse (s : String) : Except UrlFault Url :=
  let raw := trim s.toList
  let shown := raw.filter (!isHidden ·)
  match scheme? shown with
  | none => .error .relative
  | some (scheme, rest) =>
    let special := isSpecial scheme
    let (rest, fragmentText) := Split.first '#' rest
    let (rest, queryText) := Split.first '?' rest
    let fragment := fragmentText.map fun cs => String.ofList (Percent.encode Percent.inFragment cs)
    let query := queryText.map fun cs =>
      String.ofList (Percent.encode (Percent.inQuery special) cs)
    let followed := query.isSome || fragment.isSome
    if scheme = "file" then
      fileUrl (((Split.first ':' raw).2.getD []).takeWhile fun c => c ≠ '?' && c ≠ '#')
        query fragment
    else if special then
      withAuthority scheme followed (rest.dropWhile (isSlash true)) query fragment
    else otherUrl scheme followed rest query fragment

end Url
end Tronkit
