import LspClient.Url.Host

/-!
# URLs for HTTP

A URL names a server, by host and port, and what is asked of it, by path, query and fragment.
Reading one is lenient: blanks around it are dropped, as are tabs and line ends anywhere in it, a
backslash is as good as a slash, and what may not stand in some part is percent-encoded.

The text up to the first slash, question mark or number sign says where the server is, and nothing
after it has a say in that.
-/

namespace LspClient.Url

/-- The port of a server that a URL names without a port. -/
def standardPort : Nat :=
  80

end LspClient.Url

namespace LspClient

/-- A URL for HTTP. Every part is kept as it is written in the URL. -/
structure Url where
  user : List Char := []
  password : Option (List Char) := none
  host : Url.Host
  /-- The port, if it is not the standard one. -/
  port : Option Nat := none
  /-- The segments of the path. There is always one, though it may be empty. -/
  path : List (List Char)
  query : Option (List Char) := none
  fragment : Option (List Char) := none
  deriving DecidableEq, Repr

namespace Url

/-- A tab or the end of a line. -/
def isLayout (c : Char) : Bool :=
  c == '\t' || c == '\n' || c == '\r'

/-- A slash, which a backslash is as good as. -/
def isSlash (c : Char) : Bool :=
  c == '/' || c == '\\'

/-- Whether a character begins the query or the fragment. -/
def endsPath (c : Char) : Bool :=
  c == '?' || c == '#'

/-- Whether a character ends the part of a URL that says where the server is. -/
def endsAuthority (c : Char) : Bool :=
  isSlash c || endsPath c

/-! ### Where the server is -/

/-- The text before the last occurrence of a character, and the text after it. -/
def splitAtLast (sep : Char) (s : List Char) : Option (List Char × List Char) :=
  (Text.splitAtFirst sep s.reverse).map fun (after, before) ↦ (before.reverse, after.reverse)

/-- The name and the password of a user. An empty password is none. -/
def userInfo (s : List Char) : List Char × Option (List Char) :=
  match Text.splitAtFirst ':' s with
  | none => (encode inUserSet s, none)
  | some (name, []) => (encode inUserSet name, none)
  | some (name, password) => (encode inUserSet name, some (encode inUserSet password))

/-- The text up to the first colon that is not between brackets. -/
def hostText (inside : Bool) : List Char → List Char
  | [] => []
  | c :: rest =>
    if c = ':' ∧ !inside then []
    else if c = '[' then c :: hostText true rest
    else if c = ']' then c :: hostText false rest
    else c :: hostText inside rest

/-- The greatest number of a port. -/
def greatestPort : Nat :=
  65535

/-- The port that digits stand for; none without digits, and for the standard port. -/
def portOf (s : List Char) : Except Fault (Option Nat) :=
  if s = [] then .ok none
  else
    match Decimal.readDigits greatestPort 0 s with
    | .ok port => .ok (if port = standardPort then none else some port)
    | .error _ => .error .invalidPort

/-- Where a server is. -/
structure Authority where
  user : List Char
  password : Option (List Char)
  host : Host
  port : Option Nat
  deriving DecidableEq, Repr

/-- Reads where a server is: an optional user, a host and an optional port. -/
def Authority.parse (s : List Char) : Except Fault Authority := do
  let (info, s) := (splitAtLast '@' s).getD ([], s)
  let (user, password) := userInfo info
  let text := hostText false s
  let host ← Host.parse text
  let port ← portOf ((s.drop text.length).drop 1)
  return ⟨user, password, host, port⟩

/-! ### What is asked of it -/

/-- A text with escaped points replaced by points. -/
def unescapePoints : List Char → List Char
  | [] => []
  | '%' :: '2' :: c :: rest =>
    if c = 'e' ∨ c = 'E' then '.' :: unescapePoints rest else '%' :: '2' :: c :: unescapePoints rest
  | c :: rest => c :: unescapePoints rest

/-- A segment that stands for the one it is in. -/
def isHere (segment : List Char) : Bool :=
  unescapePoints segment == ['.']

/-- A segment that stands for the one above. -/
def isAbove (segment : List Char) : Bool :=
  unescapePoints segment == ['.', '.']

/-- A segment that names a drive, from which there is no way up. -/
def isDrive : List Char → Bool
  | [letter, sign] => letter.isAlpha && (sign == ':' || sign == '|')
  | _ => false

/-- The segments above, given the segments of a path with the last one first. -/
def above : List (List Char) → List (List Char)
  | [] => []
  | segment :: segments => if isDrive segment then segment :: segments else segments

/-- The segments of a path with those that stand for others carried out, `done` being the ones so
far with the last one first. -/
def resolve (done : List (List Char)) : List (List Char) → List (List Char)
  | [] => done.reverse
  | segment :: rest =>
    let done :=
      if isAbove segment then above done
      else if isHere segment then done
      else segment :: done
    if rest = [] ∧ (isAbove segment ∨ isHere segment) then ([] :: done).reverse
    else resolve done rest

/-- The segments of a path, of which the slash at the front need not be there. -/
def pathOf (s : List Char) : List (List Char) :=
  let s := s.map fun c ↦ if isSlash c then '/' else c
  let s := if s.head? = some '/' then s.drop 1 else s
  resolve [] ((splitAt '/' s).map (encode inPathSet))

/-- The query, given the text that begins with it. -/
def queryOf (s : List Char) : Option (List Char) :=
  match s with
  | '?' :: rest => some (encode inQuerySet (rest.takeWhile (· ≠ '#')))
  | _ => none

/-- The fragment, given the text after the path. -/
def fragmentOf (s : List Char) : Option (List Char) :=
  match s.dropWhile (· ≠ '#') with
  | [] => none
  | _ :: rest => some (encode inFragmentSet rest)

/-! ### Reading and writing -/

/-- A text without blanks at its end, and without tabs and line ends. -/
def clean (s : List Char) : List Char :=
  (Text.dropEndWhile (fun c ↦ c.toNat ≤ 0x20) s).filter (fun c ↦ !isLayout c)

/-- Reads a URL, given the text after its scheme. -/
def parse (afterScheme : String) : Except Fault Url := do
  let s := (clean afterScheme.toList).dropWhile isSlash
  let authority ← Authority.parse (s.takeWhile (fun c ↦ !endsAuthority c))
  let rest := s.dropWhile fun c ↦ !endsAuthority c
  let afterPath := rest.dropWhile fun c ↦ !endsPath c
  return {
    user := authority.user
    password := authority.password
    host := authority.host
    port := authority.port
    path := pathOf (rest.takeWhile fun c ↦ !endsPath c)
    query := queryOf afterPath
    fragment := fragmentOf afterPath
  }

/-- The user of a URL as it is written. -/
def shownUser (u : Url) : List Char :=
  let password :=
    match u.password with
    | none => []
    | some p => ':' :: p
  match u.user ++ password with
  | [] => []
  | info => info ++ ['@']

/-- The path and the query as they are asked for. -/
def target (u : Url) : List Char :=
  u.path.flatMap ('/' :: ·) ++ (u.query.map ('?' :: ·)).getD []

/-- A URL as it is written. -/
def shown (u : Url) : String :=
  String.ofList ("http://".toList ++ u.shownUser ++ u.host.shown ++
    (u.port.map (':' :: Decimal.digits ·)).getD [] ++ u.target ++
    (u.fragment.map ('#' :: ·)).getD [])

end Url

end LspClient
