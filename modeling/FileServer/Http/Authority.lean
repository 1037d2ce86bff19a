import FileServer.Http.Domain
import FileServer.Http.Percent
import FileServer.Ipv4

/-!
# Authorities

The part of a target that names a host: perhaps a user in front of an at sign, the
host, and perhaps a port behind a colon. `Authority.isValid` says whether a text can
be one. A host is an IPv6 address in brackets or a domain name, and a name whose last
label is a number has to be an IPv4 address, in any of the forms with one to four
parts in decimal, octal or hexadecimal.
-/

namespace FileServer.Authority

/-- A hexadecimal digit. -/
def isHex (c : Char) : Bool :=
  c.isDigit || ('a' ≤ c && c ≤ 'f') || ('A' ≤ c && c ≤ 'F')

/-- The groups of an IPv6 address, `n` of which stand before the text; `gap` says that
    the double colon was among them. The last two groups may be a dotted address. -/
def isGroups (n : Nat) (gap : Bool) (cs : List Char) : Bool :=
  match cs with
  | [] => gap || n == 8
  | c :: cs' =>
    if n = 8 then false
    else if c = ':' then !gap && isGroups (n + 1) true cs'
    else
      let digits := ((c :: cs').take 4).takeWhile isHex
      let rest := (c :: cs').drop (digits.length - 1)
      match _h : rest.tail with
      | [] => digits != [] && isGroups (n + 1) gap []
      | '.' :: _ =>
        digits != [] && n ≤ 6 && (Ipv4.ofChars? (c :: cs')).isSome && (gap || n == 6)
      | ':' :: more => digits != [] && more != [] && isGroups (n + 1) gap more
      | _ => false
termination_by cs.length
decreasing_by
  · simp
  · simp
  · have h := congrArg List.length _h
    simp only [List.length_tail, List.length_drop, List.length_cons, rest] at h
    simp only [List.length_cons]
    omega

/-- An IPv6 address. -/
def isIpv6 : List Char → Bool
  | ':' :: ':' :: cs => isGroups 1 true cs
  | ':' :: _ => false
  | cs => 2 ≤ cs.length && isGroups 0 false cs

/-- The number that digits spell in a base, if all of them are digits of it. -/
def inBase? (base : Nat) (cs : List Char) : Option Nat :=
  cs.foldlM (fun n c =>
    let digit := if c.isDigit then c.toNat - 48
      else if 'a' ≤ c ∧ c ≤ 'f' then c.toNat - 87
      else if 'A' ≤ c ∧ c ≤ 'F' then c.toNat - 55
      else base
    if digit < base then some (n * base + digit) else none) 0

/-- A part of an IPv4 address: hexadecimal behind `0x`, octal behind a zero, else
    decimal. -/
def part? : List Char → Option Nat
  | [] => none
  | '0' :: 'x' :: cs => inBase? 16 cs
  | '0' :: 'X' :: cs => inBase? 16 cs
  | '0' :: c :: cs => inBase? 8 (c :: cs)
  | cs => inBase? 10 cs

/-- The labels of a name without the empty one behind a dot at its end. -/
def nameParts (name : List Char) : List (List Char) :=
  let parts := Domain.labels name
  if parts.getLast? = some [] then parts.dropLast else parts

/-- Whether the last label of a name is a number, so that the name has to be an
    address. -/
def endsInNumber (name : List Char) : Bool :=
  match (nameParts name).getLast? with
  | none => false
  | some last => (last != [] && last.all Char.isDigit) || (part? last).isSome

/-- An IPv4 address: up to four parts, each below 256 but for the last, which stands
    for all the places that are left. -/
def isIpv4 (name : List Char) : Bool :=
  let parts := nameParts name
  match parts.mapM part? with
  | none => false
  | some numbers =>
    parts.length ≤ 4 && numbers.dropLast.all (· ≤ 255) &&
      numbers.getLast?.any (· < Nat.pow 256 (5 - parts.length))

/-- A host as it is written. -/
def isHost (cs : List Char) : Bool :=
  match cs with
  | [] => false
  | '[' :: inner => inner.getLast? == some ']' && isIpv6 inner.dropLast
  | _ =>
    match (Utf8.decode? (Percent.decode (Bytes.ofChars cs))).bind Domain.plain? with
    | none => false
    | some name => name != [] && (!endsInNumber name || isIpv4 name)

/-- A port: decimal digits, or none at all. -/
def isPort (cs : List Char) : Bool := cs.all Char.isDigit && Ipv4.decimal cs ≤ 65535

/-- The host and what follows it: a colon ends the host unless it stands in
    brackets. -/
def splitHost (bracketed : Bool) : List Char → List Char × List Char
  | [] => ([], [])
  | c :: cs =>
    if c = ':' ∧ !bracketed then ([], c :: cs)
    else
      let (host, rest) :=
        splitHost (if c = '[' then true else if c = ']' then false else bracketed) cs
      (c :: host, rest)

/-- What stands behind the last at sign. -/
def withoutUser (cs : List Char) : List Char := (cs.reverse.takeWhile (· != '@')).reverse

/-- Whether the text can be the authority of a target. -/
def isValid (cs : List Char) : Bool :=
  let (host, rest) := splitHost false (withoutUser cs)
  isHost host && isPort rest.tail

end FileServer.Authority
