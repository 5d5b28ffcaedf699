import ModelContext.Number.Integer
import ModelContext.Text.Parts

/-!
# Socket addresses

The text forms of an address with a port: `a.b.c.d:port` and `[groups]:port`. In the second, one run
of zero groups may be written as two colons, the last two groups may be written as a dotted quad, and
a scope may follow after a percent sign. An address is written in one of its forms only: the first of the
longest runs of zero groups is left out, and only a mapped IPv4 address has a dotted quad.

Every reader returns what follows the part that it read.
-/

namespace ModelContext

/-- Four bytes, the form of an IPv4 address. -/
structure Quad where
  a : UInt8
  b : UInt8
  c : UInt8
  d : UInt8
  deriving DecidableEq

inductive SocketAddress where
  | v4 (address : Quad) (port : UInt16)
  | v6 (groups : Vector UInt16 8) (scope : UInt32) (port : UInt16)
  deriving DecidableEq

namespace SocketAddress

def port : SocketAddress → UInt16
  | v4 _ port => port
  | v6 _ _ port => port

/-! ## Reading -/

/-- The digits in front of a text, and what follows them. -/
def digitRun (isDigit : Char → Bool) (cs : List Char) : List Char × List Char :=
  (cs.takeWhile isDigit, cs.dropWhile isDigit)

/-- A byte of at most three digits, without zeros in front. -/
def byte? (cs : List Char) : Option (UInt8 × List Char) :=
  let (ds, rest) := digitRun Char.isDigit cs
  let n := Nat.ofDigitChars 10 ds 0
  if ds ≠ [] ∧ ds.length ≤ 3 ∧ (ds.head? = some '0' → ds.length = 1) ∧ n < 256 then some (n.toUInt8, rest)
  else none

/-- A decimal number below `limit`, with any zeros in front. -/
def decimal? (limit : Nat) (cs : List Char) : Option (Nat × List Char) :=
  let (ds, rest) := digitRun Char.isDigit cs
  let n := Nat.ofDigitChars 10 ds 0
  if ds ≠ [] ∧ n < limit then some (n, rest) else none

/-- A group of one to four hexadecimal digits. -/
def group? (cs : List Char) : Option (UInt16 × List Char) :=
  let (ds, rest) := digitRun (fun c => (hexValue? c).isSome) cs
  if ds ≠ [] ∧ ds.length ≤ 4 then
    some ((ds.foldl (fun n c => n * 16 + (hexValue? c).getD 0) 0).toUInt16, rest)
  else none

def quad? (cs : List Char) : Option (Quad × List Char) := do
  let (a, rest) ← byte? cs
  let (b, rest) ← byte? (← Text.after? ['.'] rest)
  let (c, rest) ← byte? (← Text.after? ['.'] rest)
  let (d, rest) ← byte? (← Text.after? ['.'] rest)
  some (⟨a, b, c, d⟩, rest)

/-- Reads after a colon, unless it is the first part. -/
def afterColon? {α : Type} (first : Bool) (read : List Char → Option (α × List Char)) (cs : List Char) :
    Option (α × List Char) :=
  if first then read cs else (Text.after? [':'] cs).bind read

/-- Two bytes as one group. -/
def join (high low : UInt8) : UInt16 :=
  high.toUInt16 * 256 + low.toUInt16

/-- Groups that were read, whether the last two came from a dotted quad, and what follows. -/
structure Groups where
  groups : List UInt16
  dotted : Bool
  rest : List Char

/-- Reads at most `limit` groups; a dotted quad stands for two and comes last. -/
def readGroups (first : Bool) : (limit : Nat) → List Char → Groups
  | 0, cs => ⟨[], false, cs⟩
  | limit + 1, cs =>
    match if 0 < limit then afterColon? first quad? cs else none with
    | some (q, rest) => ⟨[join q.a q.b, join q.c q.d], true, rest⟩
    | none =>
      match afterColon? first group? cs with
      | some (g, rest) =>
        let later := readGroups false limit rest
        ⟨g :: later.groups, later.dotted, later.rest⟩
      | none => ⟨[], false, cs⟩

/-- The eight groups of an IPv6 address. Two colons stand for at least one group, and no dotted quad may
be in front of them. -/
def groups? (cs : List Char) : Option (Vector UInt16 8 × List Char) :=
  let head := readGroups true 8 cs
  if h : head.groups.length = 8 then some (⟨head.groups.toArray, by simpa using h⟩, head.rest)
  else if head.dotted then none
  else do
    let rest ← Text.after? [':', ':'] head.rest
    let tail := readGroups true (7 - head.groups.length) rest
    let zeros := List.replicate (8 - head.groups.length - tail.groups.length) 0
    let groups := head.groups ++ zeros ++ tail.groups
    if h : groups.length = 8 then some (⟨groups.toArray, by simpa using h⟩, tail.rest) else none

/-- The scope after a percent sign, zero if there is none. -/
def scope? (cs : List Char) : Option (UInt32 × List Char) :=
  match cs with
  | '%' :: rest => (decimal? 4294967296 rest).map fun (n, rest) => (n.toUInt32, rest)
  | _ => some (0, cs)

def port? (cs : List Char) : Option (UInt16 × List Char) := do
  let (n, rest) ← decimal? 65536 (← Text.after? [':'] cs)
  some (n.toUInt16, rest)

def v4? (cs : List Char) : Option (SocketAddress × List Char) := do
  let (address, rest) ← quad? cs
  let (port, rest) ← port? rest
  some (.v4 address port, rest)

def v6? (cs : List Char) : Option (SocketAddress × List Char) := do
  let (groups, rest) ← groups? (← Text.after? ['['] cs)
  let (scope, rest) ← scope? rest
  let (port, rest) ← port? (← Text.after? [']'] rest)
  some (.v6 groups scope port, rest)

/-- The address that a whole text writes. -/
def ofText? (text : String) : Option SocketAddress :=
  match v4? text.toList <|> v6? text.toList with
  | some (address, []) => some address
  | _ => none

/-! ## Writing -/

def natChars (n : Nat) : List Char :=
  Nat.toDigits 10 n

def quadChars (q : Quad) : List Char :=
  natChars q.a.toNat ++ '.' :: natChars q.b.toNat ++ '.' :: natChars q.c.toNat ++ '.' :: natChars q.d.toNat

/-- Groups with colons between them. -/
def groupChars : List UInt16 → List Char
  | [] => []
  | [g] => hexChars g.toNat
  | g :: gs => hexChars g.toNat ++ ':' :: groupChars gs

/-- A run of zero groups: where it begins and how long it is. -/
structure Run where
  start : Nat
  length : Nat
  deriving DecidableEq

/-- The longest run of zeros from a place on, the first of several; `current` is the run that ends at
the place, and `best` the longest so far. -/
def longestRun (place : Nat) (current best : Run) : List UInt16 → Run
  | [] => best
  | g :: gs =>
    if g = 0 then
      let current := if current.length = 0 then ⟨place, 1⟩ else ⟨current.start, current.length + 1⟩
      longestRun (place + 1) current (if best.length < current.length then current else best) gs
    else longestRun (place + 1) ⟨0, 0⟩ best gs

/-- The canonical form of eight groups: an IPv4 address that is mapped into IPv6 as a dotted quad, and
otherwise the longest run of two or more zero groups as two colons. -/
def addressChars (groups : Vector UInt16 8) : List Char :=
  let gs := groups.toList
  match gs with
  | [0, 0, 0, 0, 0, 0xFFFF, high, low] =>
    "::ffff:".toList ++
      quadChars ⟨(high / 256).toUInt8, (high % 256).toUInt8, (low / 256).toUInt8, (low % 256).toUInt8⟩
  | _ =>
    let run := longestRun 0 ⟨0, 0⟩ ⟨0, 0⟩ gs
    if 1 < run.length then
      groupChars (gs.take run.start) ++ "::".toList ++ groupChars (gs.drop (run.start + run.length))
    else groupChars gs

def chars : SocketAddress → List Char
  | v4 address port => quadChars address ++ ':' :: natChars port.toNat
  | v6 groups scope port =>
    '[' :: addressChars groups ++ (if scope = 0 then [] else '%' :: natChars scope.toNat) ++ ']' :: ':' ::
      natChars port.toNat

/-- The text of an address. -/
def text (address : SocketAddress) : String :=
  String.ofList address.chars

end SocketAddress
end ModelContext
