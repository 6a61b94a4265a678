import LintBridge.Text.Digit
import LintBridge.Text.Quoted

/-!
Hosts in square brackets.

A host in brackets is an address of version six, or one of a later version written as `v`, a
hexadecimal version, a point and some text. The grammar of both versions of addresses is given by
`isAddress4` and `isAddress6`.
-/
set_option autoImplicit false

namespace LintBridge.Host

/-- A number from 0 to 255 in decimal digits, without zeros in front. -/
def isOctet (text : List Char) : Bool :=
  !text.isEmpty && text.all Char.isDigit && text.length ≤ 3 &&
    (text == ['0'] || text.head? != some '0') &&
    text.foldl (fun n c => n * 10 + (c.toNat - 48)) 0 ≤ 255

def isAddress4 (text : List Char) : Bool :=
  let octets := text.splitOn '.'
  octets.length == 4 && octets.all isOctet

/-- Up to four hexadecimal digits. -/
def isGroup (text : List Char) : Bool :=
  !text.isEmpty && text.length ≤ 4 && text.all fun c => (Text.hexValue? c).isSome

/-- The groups of an address of version six between colons, where two groups stand for an address of
version four at the end; none if that address is malformed. -/
def groups? (text : List Char) : Option (List (List Char)) :=
  let parts := text.splitOn ':'
  match parts.getLast? with
  | some last =>
    if last.contains '.' then
      if 3 ≤ parts.length && isAddress4 last then some (parts.dropLast ++ [['0'], ['0']]) else none
    else some parts
  | none => some parts

/-- The places of the empty groups other than the first and the last. -/
def gaps (groups : List (List Char)) : List Nat :=
  ((groups.dropLast.zipIdx).filter fun (group, n) => group.isEmpty && n != 0).map Prod.snd

/-- Whether groups between colons are an address of version six. One run of empty groups, at least
one group long, may be left out; a colon at either end must belong to it. -/
def isGroups (groups : List (List Char)) : Bool :=
  3 ≤ groups.length && groups.length ≤ 9 &&
    match gaps groups with
    | [] => groups.length == 8 && groups.all isGroup
    | [gap] =>
      let front := groups.take gap
      let back := groups.drop (gap + 1)
      let front := if front == [[]] then [] else front
      let back := if back == [[]] then [] else back
      front.length + back.length ≤ 7 && front.all isGroup && back.all isGroup
    | _ => false

/-- An address of version six, with an optional zone behind a percent sign. -/
def isAddress6 (text : List Char) : Bool :=
  let address := text.takeWhile (· != '%')
  let zone := (text.dropWhile (· != '%')).drop 1
  let hasZone := text.contains '%'
  (!hasZone || (!zone.isEmpty && !zone.contains '%')) &&
    match groups? address with
    | some groups => isGroups groups
    | none => false

inductive Fault where
  | notAnAddress (host : String)
  | versionFour
  | laterVersion
  deriving DecidableEq, Repr

def Fault.message : Fault → String
  | .notAnAddress host =>
    s!"{Text.quotedString host} does not appear to be an IPv4 or IPv6 address"
  | .versionFour => "An IPv4 address cannot be in brackets"
  | .laterVersion => "IPvFuture address is invalid"

/-- Whether a host is an address of a later version. -/
def isLater (host : List Char) : Bool :=
  let behind := host.drop 1
  let version := behind.takeWhile fun c => (Text.hexValue? c).isSome
  match behind.drop version.length with
  | '.' :: _ :: _ => !version.isEmpty
  | _ => false

def fault? (host : List Char) : Option Fault :=
  if host.head? == some 'v' then if isLater host then none else some .laterVersion
  else if isAddress4 host then some .versionFour
  else if isAddress6 host then none
  else some (.notAnAddress (String.ofList host))

end LintBridge.Host
