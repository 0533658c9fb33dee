import ModelFleet.Text.Hex

/-!
# Socket addresses

A host address with a port.  A host is four octets, or eight groups with a scope.  `parse` reads the
usual notations of both (a run of zero groups may be left out once, and the last two groups may be
written as four octets); `toString` writes the shortest one, in lower case.
-/

namespace ModelFleet

inductive Host
  | v4 (octets : List Nat)
  | v6 (groups : List Nat) (scope : Nat)
  deriving DecidableEq

structure SocketAddress where
  host : Host
  port : Nat
  deriving DecidableEq

namespace SocketAddress

instance : Inhabited SocketAddress := ⟨⟨.v4 [127, 0, 0, 1], 8080⟩⟩

/-- A reader takes what it can from the front of a text. -/
abbrev Reads (α : Type) := List Char → Option (α × List Char)

def digit? (base : Nat) (c : Char) : Option Nat :=
  (Hex.ofChar? c).bind fun d => if d.val < base then some d.val else none

def value (base : Nat) (digits : List Nat) : Nat := digits.foldl (fun n d => n * base + d) 0

/-- A number in a base, below a limit, with at most so many digits.  It may not begin with zeros
unless `zeros` says so. -/
def readNumber (base limit : Nat) (width : Option Nat) (zeros : Bool) : Reads Nat := fun cs =>
  let digits := (cs.takeWhile fun c => (digit? base c).isSome).filterMap (digit? base)
  let tooWide := match width with
    | some w => w < digits.length
    | none => false
  let zeroFirst := !zeros && digits.head? == some 0 && 1 < digits.length
  if digits.isEmpty || tooWide || zeroFirst || limit ≤ value base digits then none
  else some (value base digits, cs.drop digits.length)

def readMark (mark : Char) : List Char → Option (List Char)
  | [] => none
  | c :: cs => if c = mark then some cs else none

/-- An item that follows a mark unless it is the first of its list. -/
def readAfter {α : Type} (mark : Char) (first : Bool) (item : Reads α) : Reads α := fun cs =>
  if first then item cs else (readMark mark cs).bind item

def readOctet : Reads Nat := readNumber 10 256 (some 3) false

def readOctets : Reads (List Nat) := fun cs => do
  let (a, cs) ← readOctet cs
  let (b, cs) ← readAfter '.' false readOctet cs
  let (c, cs) ← readAfter '.' false readOctet cs
  let (d, cs) ← readAfter '.' false readOctet cs
  return ([a, b, c, d], cs)

def readGroup : Reads Nat := readNumber 16 65536 (some 4) true

def pairs : List Nat → List Nat
  | a :: b :: rest => (a * 256 + b) :: pairs rest
  | rest => rest

/-- Up to `room` groups; four octets end them and take the place of two.  The answer also says
whether they did. -/
def readGroups (first : Bool) : Nat → List Char → (List Nat × Bool) × List Char
  | 0, cs => (([], false), cs)
  | room + 1, cs =>
    match (if 0 < room then readAfter ':' first readOctets cs else none) with
    | some (octets, cs) => ((pairs octets, true), cs)
    | none =>
      match readAfter ':' first readGroup cs with
      | none => (([], false), cs)
      | some (group, cs) =>
        let ((groups, octets), cs) := readGroups false room cs
        ((group :: groups, octets), cs)

/-- Eight groups, of which a run of zeros may be left out. -/
def readEight : Reads (List Nat) := fun cs =>
  let ((head, octets), rest) := readGroups true 8 cs
  if head.length = 8 then some (head, rest)
  else if octets then none
  else do
    let rest ← readMark ':' rest
    let rest ← readMark ':' rest
    let ((tail, _), rest) := readGroups true (7 - head.length) rest
    return (head ++ List.replicate (8 - head.length - tail.length) 0 ++ tail, rest)

def readPort : Reads Nat := readAfter ':' false (readNumber 10 65536 none true)

def readV4 : Reads SocketAddress := fun cs => do
  let (octets, cs) ← readOctets cs
  let (port, cs) ← readPort cs
  return (⟨.v4 octets, port⟩, cs)

def readScope (cs : List Char) : Nat × List Char :=
  (readAfter '%' false (readNumber 10 (2 ^ 32) none true) cs).getD (0, cs)

def readV6 : Reads SocketAddress := fun cs => do
  let cs ← readMark '[' cs
  let (groups, cs) ← readEight cs
  let (scope, cs) := readScope cs
  let cs ← readMark ']' cs
  let (port, cs) ← readPort cs
  return (⟨.v6 groups scope, port⟩, cs)

def parse (s : String) : Option SocketAddress :=
  match (readV4 s.toList).orElse fun _ => readV6 s.toList with
  | some (address, []) => some address
  | _ => none

def octetsText (octets : List Nat) : String := ".".intercalate (octets.map toString)

def groupsText (groups : List Nat) : String := ":".intercalate (groups.map Hex.ofNat)

/-- The length of the run of zeros in front. -/
def zeros (groups : List Nat) : Nat := (groups.takeWhile (· == 0)).length

/-- Start and length of the first of the longest runs of zeros. -/
def longestZeros : List Nat → Nat × Nat
  | [] => (0, 0)
  | g :: rest =>
    let (start, length) := longestZeros rest
    let here := zeros (g :: rest)
    if length ≤ here then (0, here) else (start + 1, length)

def hostText (groups : List Nat) : String :=
  match groups with
  | [0, 0, 0, 0, 0, 0xffff, a, b] =>
    "::ffff:" ++ octetsText [a / 256, a % 256, b / 256, b % 256]
  | groups =>
    let (start, length) := longestZeros groups
    if 1 < length then
      groupsText (groups.take start) ++ "::" ++ groupsText (groups.drop (start + length))
    else groupsText groups

def toString (address : SocketAddress) : String :=
  let host := match address.host with
    | .v4 octets => octetsText octets
    | .v6 groups scope =>
      "[" ++ hostText groups ++ (if scope = 0 then "" else s!"%{scope}") ++ "]"
  s!"{host}:{address.port}"

instance : ToString SocketAddress := ⟨toString⟩

end SocketAddress

end ModelFleet
