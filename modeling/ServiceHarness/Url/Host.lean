import ServiceHarness.Text.Quoted
import ServiceHarness.Url.Domain
import ServiceHarness.Url.Percent

/-!
# Hosts

A `Host` is an address of four or of sixteen bytes or a domain name.  `Host.parse` reads it
out of a URL and tells a `Fault` if it is none of these; `Host.text` writes it in its usual
form.
-/

namespace ServiceHarness.Url

/-- Why a text is no absolute URL. -/
inductive Fault where
  /-- It does not begin with a scheme. -/
  | relative
  /-- It needs a host and has none. -/
  | emptyHost
  /-- The port is no number below 65536. -/
  | port
  /-- The host ends in a number but is no address of four bytes. -/
  | addressOfFour
  /-- The host in brackets is no address of sixteen bytes. -/
  | addressOfSixteen
  /-- The host cannot be a domain name. -/
  | domainName
  /-- The host has a character that no host can have. -/
  | character
  deriving DecidableEq, Repr

/-- The wording of a fault. -/
def Fault.message : Fault → String
  | .relative => "relative URL without a base"
  | .emptyHost => "empty host"
  | .port => "invalid port number"
  | .addressOfFour => "invalid IPv4 address"
  | .addressOfSixteen => "invalid IPv6 address"
  | .domainName => "invalid international domain name"
  | .character => "invalid domain character"

/-- A host. -/
inductive Host where
  /-- A domain name. -/
  | domain (name : String)
  /-- An address of four bytes, as one number. -/
  | four (address : Nat)
  /-- An address of sixteen bytes, as eight numbers. -/
  | sixteen (pieces : List Nat)
  deriving DecidableEq, Repr

namespace Host

/-- A number of an address of four bytes: hexadecimal after `0x`, octal after `0`, and else
decimal. -/
def number? : List Char → Option Nat
  | [] => none
  | '0' :: 'x' :: ds => if ds.isEmpty then some 0 else Text.natural? 16 ds
  | '0' :: 'X' :: ds => if ds.isEmpty then some 0 else Text.natural? 16 ds
  | '0' :: d :: ds => Text.natural? 8 (d :: ds)
  | ds => Text.natural? 10 ds

/-- The parts of a name between its dots, without the empty one after a last dot. -/
def dotted (name : List Char) : List (List Char) :=
  let parts := splitAt '.' name
  if parts.length > 1 ∧ parts.getLast? = some [] then parts.dropLast else parts

/-- Whether the last part of a name is a number. -/
def endsInNumber (name : List Char) : Bool :=
  match (dotted name).getLast? with
  | some part => (!part.isEmpty && part.all Char.isDigit) || (number? part).isSome
  | none => false

/-- The address of four bytes that numbers write: one byte each, and the last one all that
remain. -/
def four? (name : List Char) : Option Nat := do
  let numbers ← (dotted name).mapM number?
  guard (numbers.length ≤ 4)
  let last ← numbers.getLast?
  let before := numbers.dropLast
  let weight := Nat.pow 256 (4 - before.length)
  guard (last < weight ∧ before.all (· < 256))
  return before.foldl (fun n byte => n * 256 + byte) 0 * weight + last

/-- The four bytes of an address in decimal numbers. -/
def bytes? (cs : List Char) : Option (List Nat) := do
  let parts := splitAt '.' cs
  guard (parts.length = 4)
  parts.mapM fun ds => do
    guard (ds.length = 1 ∨ ds.head? ≠ some '0')
    let n ← Text.natural? 10 ds
    guard (n < 256)
    return n

/-- Two bytes of an address in hexadecimal. -/
def piece? (ds : List Char) : Option Nat := do
  guard (ds.length ≤ 4)
  Text.natural? 16 ds

/-- The pieces between colons; the last two may be written as four bytes. -/
def pieces? (cs : List Char) : Option (List Nat) := do
  if cs.isEmpty then return []
  let parts := splitAt ':' cs
  match parts.getLast? with
  | none => failure
  | some last =>
    if last.contains '.' then
      let before ← parts.dropLast.mapM piece?
      match ← bytes? last with
      | [a, b, c, d] => return before ++ [256 * a + b, 256 * c + d]
      | _ => failure
    else parts.mapM piece?

/-- What stands before and after the first two colons in a row, if there are any. -/
def cutDouble : List Char → Option (List Char × List Char)
  | ':' :: ':' :: rest => some ([], rest)
  | c :: rest => (cutDouble rest).map fun p => (c :: p.1, p.2)
  | [] => none

/-- The address of sixteen bytes; two colons in a row stand for all the zeros that are
missing. -/
def sixteen? (cs : List Char) : Option (List Nat) :=
  match cutDouble cs with
  | none => (pieces? cs).filter (·.length == 8)
  | some (before, after) => do
    guard !before.contains '.'
    let before ← pieces? before
    let after ← pieces? after
    guard (before.length + after.length ≤ 7)
    return before ++ List.replicate (8 - before.length - after.length) 0 ++ after

/-- The host of a URL with one of the schemes that need it. -/
def parse (cs : List Char) : Except Fault Host :=
  match cs with
  | '[' :: rest =>
    match rest.getLast? with
    | some ']' =>
      match sixteen? rest.dropLast with
      | some pieces => .ok (.sixteen pieces)
      | none => .error .addressOfSixteen
    | _ => .error .addressOfSixteen
  | _ =>
    match Percent.decode cs >>= domain? with
    | none => .error .domainName
    | some [] => .error .emptyHost
    | some name =>
      if !endsInNumber name then .ok (.domain (String.ofList name))
      else match four? name with
        | some address => .ok (.four address)
        | none => .error .addressOfFour

/-- Whether a text may stand where other URLs have their host. -/
def checkOther (cs : List Char) : Except Fault Unit :=
  if cs.head? = some '[' then (parse cs).map fun _ => ()
  else if cs.any fun c => "\x00 #/:<>?@[\\]^|".contains c then .error .character
  else .ok ()

/-- The place and the length of the longest run of zeros, the first of several. -/
def longestZeros (pieces : List Nat) : Nat × Nat :=
  let run (i : Nat) : Nat := ((pieces.drop i).takeWhile (· == 0)).length
  (List.range pieces.length).foldl
    (fun best i => if run i > best.2 then (i, run i) else best) (0, 0)

/-- The pieces with colons between them. -/
def joinPieces (pieces : List Nat) : String :=
  ":".intercalate (pieces.map Text.hex)

/-- The usual form of a host.  Two zeros or more in a row are left out of an address of sixteen
bytes once, where they are most. -/
def text : Host → String
  | .domain name => name
  | .four n => ".".intercalate ([16777216, 65536, 256, 1].map fun k => toString (n / k % 256))
  | .sixteen pieces =>
    let (start, length) := longestZeros pieces
    let inside :=
      if length < 2 then joinPieces pieces
      else joinPieces (pieces.take start) ++ "::" ++ joinPieces (pieces.drop (start + length))
    "[" ++ inside ++ "]"

end Host

end ServiceHarness.Url
