import ServiceHarness.Url.Host

/-!
# URLs

`Url.parse` reads an absolute URL.  One with the scheme `http` or `https` becomes a `Target`,
which `Target.text` writes in its usual form; of any other only the scheme is told, and
whether it is a URL at all.
-/

namespace ServiceHarness.Url

/-- The place to which a request for a URL goes, all its parts encoded. -/
structure Target where
  /-- Whether the scheme is `https`. -/
  secure : Bool
  /-- The name of the user. -/
  username : List Char
  /-- The password. -/
  password : List Char
  /-- The host. -/
  host : Host
  /-- The port, unless it is the usual one of the scheme. -/
  port : Option Nat
  /-- The parts of the path, of which there is one at least. -/
  path : List (List Char)
  /-- The query. -/
  query : Option (List Char)
  /-- The fragment. -/
  fragment : Option (List Char)
  deriving DecidableEq, Repr

/-- A URL. -/
inductive Parsed where
  /-- It has the scheme `http` or `https`. -/
  | target (target : Target)
  /-- It has another scheme. -/
  | other (scheme : String)
  deriving DecidableEq, Repr

/-- The characters of a URL that count: no blanks or control characters at the ends, no
tabulators and no ends of lines. -/
def significant (url : String) : List Char :=
  let cs := url.toList.dropWhile (· ≤ ' ')
  (cs.reverse.dropWhile (· ≤ ' ')).reverse.filter
    fun c => c != '\t' && c != '\n' && c != '\r'

/-- The characters of a scheme after the first. -/
def isSchemeChar (c : Char) : Bool :=
  c.isAlphanum || c == '+' || c == '-' || c == '.'

/-- The scheme in lower case and what follows its colon. -/
def scheme? (cs : List Char) : Option (String × List Char) :=
  match cs.dropWhile isSchemeChar with
  | ':' :: rest =>
    if (cs.head?.map Char.isAlpha).getD false then
      some (String.ofList ((cs.takeWhile isSchemeChar).map Char.toLower), rest)
    else none
  | _ => none

/-- The class of the characters that end a host with its credentials; a backslash is a slash
where the scheme is one of those with a host. -/
def endsAuthority (special : Bool) (c : Char) : Bool :=
  c == '/' || c == '?' || c == '#' || (special && c == '\\')

/-- The characters up to the last one of its kind, and those after it. -/
def cutLast (separator : Char) (cs : List Char) : Option (List Char × List Char) :=
  let back := cs.reverse
  match back.dropWhile (· != separator) with
  | _ :: before => some (before.reverse, (back.takeWhile (· != separator)).reverse)
  | [] => none

/-- The characters of a host, up to a colon that is not in brackets. -/
def hostChars : Bool → List Char → List Char
  | _, [] => []
  | inside, c :: rest =>
    if c = ':' ∧ !inside then []
    else c :: hostChars (c == '[' || (inside && c != ']')) rest

/-- The number of a port, if it is given. -/
def port? (cs : List Char) : Except Fault (Option Nat) :=
  if cs.isEmpty then .ok none
  else match Text.natural? 10 cs with
    | some n => if n < 65536 then .ok (some n) else .error .port
    | none => .error .port

/-- The parts between the slashes of a path. -/
def segments (special : Bool) (cs : List Char) : List (List Char) :=
  splitAt '/' (cs.map fun c => if special && c == '\\' then '/' else c)

/-- Whether a part of a path stands for the directory itself, in any encoding. -/
def isDot (part : List Char) : Bool :=
  part == ['.'] || part.map Char.toLower == ['%', '2', 'e']

/-- Whether a part of a path stands for the directory above, in any encoding. -/
def isDoubleDot (part : List Char) : Bool :=
  let dots := ["..", "%2e.", ".%2e", "%2e%2e"].map String.toList
  dots.contains (part.map Char.toLower)

/-- Whether a part of a path is a letter of a drive, which is not left upwards. -/
def isDrive (part : List Char) : Bool :=
  match part with
  | [c, d] => c.isAlpha && (d == ':' || d == '|')
  | _ => false

/-- The parts of a path without the dots, after those of `done`, which are in reverse. -/
def resolveDots : List (List Char) → List (List Char) → List (List Char)
  | done, [] => done.reverse
  | done, part :: rest =>
    let more := if rest.isEmpty then [[]] else []
    if isDoubleDot part then
      let kept := match done with
        | last :: before => if isDrive last then last :: before else before
        | [] => []
      resolveDots (more ++ kept) rest
    else if isDot part then resolveDots (more ++ done) rest
    else resolveDots (part :: done) rest

/-- The path, the query and the fragment of what follows the host. -/
def splitTail (cs : List Char) : List Char × Option (List Char) × Option (List Char) :=
  let (main, fragment) := match cs.dropWhile (· != '#') with
    | _ :: f => (cs.takeWhile (· != '#'), some f)
    | [] => (cs, none)
  match main.dropWhile (· != '?') with
  | _ :: q => (main.takeWhile (· != '?'), some q, fragment)
  | [] => (main, none, fragment)

/-- The credentials of a host and what follows them.  They may not be all there is. -/
def splitCredentials (special : Bool) (cs : List Char) :
    Except Fault ((List Char × List Char) × List Char) :=
  let authority := cs.takeWhile fun c => !endsAuthority special c
  match cutLast '@' authority with
  | none => .ok (([], []), cs)
  | some (before, after) =>
    let rest := cs.drop (before.length + 1)
    if before.isEmpty ∧ after.isEmpty ∧ !rest.isEmpty then .error .emptyHost
    else
      let name := before.takeWhile (· != ':')
      let word := (before.drop name.length).drop 1
      .ok ((Percent.encode Percent.inCredentials name, Percent.encode Percent.inCredentials word),
        rest)

/-- The URL after the slashes that follow its scheme, which is `http` or one like it. -/
def parseSpecial (secure : Bool) (cs : List Char) : Except Fault Target := do
  let ((username, password), cs) ← splitCredentials true cs
  let authority := cs.takeWhile fun c => !endsAuthority true c
  let host := hostChars false authority
  if host.isEmpty then throw .emptyHost
  let host' ← Host.parse host
  let port ← port? (authority.drop (host.length + 1))
  let (path, query, fragment) := splitTail (cs.drop authority.length)
  let path := match path with
    | '/' :: rest => rest
    | '\\' :: rest => rest
    | rest => rest
  return { secure := secure
           username := username
           password := password
           host := host'
           port := port.filter (· != if secure then 443 else 80)
           path := resolveDots [] ((segments true path).map (Percent.encode Percent.inPath))
           query := query.map (Percent.encode Percent.inQuery)
           fragment := fragment.map (Percent.encode Percent.inFragment) }

/-- Whether the text after the two slashes that follow another scheme is that of a URL. -/
def checkOther (cs : List Char) : Except Fault Unit := do
  let ((username, password), cs) ← splitCredentials false cs
  let authority := cs.takeWhile fun c => !endsAuthority false c
  let host := hostChars false authority
  Host.checkOther host
  if host.isEmpty ∧ (authority.length > 0 ∨ username ≠ [] ∨ password ≠ []) then
    throw .emptyHost
  let _ ← port? ((authority.drop (host.length + 1)).takeWhile (· != '\\'))

/-- Whether the text after the scheme `file` is that of a URL. -/
def checkFile (cs : List Char) : Except Fault Unit :=
  match cs with
  | a :: b :: rest =>
    if (a = '/' ∨ a = '\\') ∧ (b = '/' ∨ b = '\\') then
      let host := rest.takeWhile fun c => !endsAuthority true c
      if host.isEmpty ∨ isDrive host then .ok () else (Host.parse host).map fun _ => ()
    else .ok ()
  | _ => .ok ()

/-- Reads an absolute URL. -/
def parse (url : String) : Except Fault Parsed := do
  match scheme? (significant url) with
  | none => throw .relative
  | some (scheme, rest) =>
    let afterSlashes := rest.dropWhile fun c => c == '/' || c == '\\'
    match scheme with
    | "http" => return .target (← parseSpecial false afterSlashes)
    | "https" => return .target (← parseSpecial true afterSlashes)
    | "file" => checkFile rest
    | _ =>
      if ["ws", "wss", "ftp"].contains scheme then
        let _ ← parseSpecial false afterSlashes
      else match rest with
        | '/' :: '/' :: rest => checkOther rest
        | _ => pure ()
    return .other scheme

namespace Target

/-- Whether credentials can be sent apart from the target: their name is a text, and if there is
no name, the password is one. -/
def hasTextCredentials (t : Target) : Bool :=
  (Percent.decode t.username).isSome
    && (!t.username.isEmpty || (Percent.decode t.password).isSome)

/-- The target without its credentials, if they can be sent apart. -/
def withoutCredentials (t : Target) : Target :=
  if t.hasTextCredentials then { t with username := [], password := [] } else t

/-- The target as it is written. -/
def text (t : Target) : String :=
  let credentials :=
    if t.username.isEmpty ∧ t.password.isEmpty then ""
    else String.ofList (t.username ++ (if t.password.isEmpty then [] else ':' :: t.password) ++ ['@'])
  let port := (t.port.map fun n => s!":{n}").getD ""
  let part (mark : Char) (cs : Option (List Char)) : String :=
    (cs.map fun cs => String.ofList (mark :: cs)).getD ""
  (if t.secure then "https://" else "http://") ++ credentials ++ t.host.text ++ port
    ++ String.join (t.path.map fun p => String.ofList ('/' :: p))
    ++ part '?' t.query ++ part '#' t.fragment

end Target

end ServiceHarness.Url
