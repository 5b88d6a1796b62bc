import StagedTests.Archive.Tar.Header
import StagedTests.Text.Utf8

/-!
# Records about members

What a header has no place for is told by records before it. A record is its own length in bytes, a
blank, a key, an equals sign, a value and the end of the line.
-/

namespace StagedTests.Tar

def isDigit (b : UInt8) : Bool := 0x30 ≤ b && b ≤ 0x39

def isGap (b : UInt8) : Bool := b = 0x20 || b = 9

def ofDecimal (digits : List UInt8) : Nat :=
  digits.foldl (fun n b => 10 * n + (b.toNat - 0x30)) 0

structure Record where
  key : String
  value : List UInt8
  deriving DecidableEq

namespace Record

/-- Where reading records stops. -/
inductive Stop
  | finished
  | malformed
  deriving DecidableEq

/-- The first record, and how many bytes it takes. -/
def first (bytes : List UInt8) : Except Stop (Record × Nat) :=
  let gap := bytes.takeWhile isGap
  let digits := (bytes.drop gap.length).takeWhile isDigit
  let start := gap.length + digits.length
  match digits, (bytes.drop gap.length).head? with
  | [], none | [], some 0 => .error .finished
  | [], some _ => .error .malformed
  | digits, _ =>
    let length := ofDecimal digits
    if bytes.length < length then .error .malformed
    else
      let behind := (bytes.drop start).takeWhile isGap
      let body := (bytes.take length).drop (start + behind.length)
      let key := body.takeWhile fun b => b ≠ 0x3d && b ≠ 0
      match behind, body.drop key.length with
      | _ :: _, 0x3d :: value =>
        if value.getLast? = some 0x0a then
          .ok (⟨Text.decodeLossy key, untilZero value.dropLast⟩, length)
        else .error .malformed
      | _, _ => .error .malformed

/-- Record after record, and whether all were in order. -/
def readAll : Nat → List UInt8 → List Record × Bool
  | 0, _ => ([], true)
  | n + 1, bytes =>
    match first bytes with
    | .error .finished => ([], true)
    | .error .malformed => ([], false)
    | .ok (r, length) =>
      let (rest, isSound) := readAll n (bytes.drop length)
      (r :: rest, isSound)

def ofBytes (bytes : List UInt8) : List Record × Bool := readAll (bytes.length + 1) bytes

end Record

/-! ## Values -/

def decimal? (greatest : Nat) (bytes : List UInt8) : Option Nat :=
  if bytes ≠ [] && bytes.all isDigit && ofDecimal bytes ≤ greatest then some (ofDecimal bytes)
  else none

/-- A number in decimal digits. Zero may have a sign. -/
def signed? (greatest : Nat) : List UInt8 → Option Nat
  | 0x2d :: digits => decimal? 0 digits
  | digits => decimal? greatest digits

/-- Whether bytes are a time: seconds with a sign or without, perhaps with a fraction of them. -/
def isTime (bytes : List UInt8) : Bool :=
  let (isNegative, bytes) := match bytes with
    | 0x2d :: rest => (true, rest)
    | _ => (false, bytes)
  let digits := bytes.takeWhile isDigit
  let seconds := ofDecimal digits
  match digits, bytes.drop digits.length with
  | [], _ => false
  | _, [] => seconds < Nat.pow 2 63 || isNegative && seconds = Nat.pow 2 63
  | _, 0x2e :: fraction =>
    fraction.all isDigit
      && (seconds < Nat.pow 2 63
        || isNegative && seconds = Nat.pow 2 63 && fraction.all (· = 0x30))
  | _, _ => false

/-- A part of a file. -/
structure Region where
  start : Nat
  length : Nat
  deriving DecidableEq

/-- The regions given by numbers in turn, the last one first, behind those that are there, and whether
all were in order. No more than so many are taken. -/
def regionsOf (most : Nat) :
    List (List UInt8) → Option Nat → List Region → List Region × Bool
  | [], start, regions => (regions, start = none)
  | part :: rest, start, regions =>
    let digits := part.takeWhile isDigit
    let n := ofDecimal digits
    let isSound := digits.length = part.length
    if digits = [] || Nat.pow 2 63 ≤ n then (regions, false)
    else
      match start with
      | none => if isSound then regionsOf most rest (some n) regions else (regions, false)
      | some start =>
        if most ≤ regions.length then (regions, false)
        else if isSound then regionsOf most rest none (⟨start, n⟩ :: regions)
        else (⟨start, n⟩ :: regions, false)

/-! ## Descriptions -/

/-- What headers and records say of a member. -/
structure Description where
  name : Path
  target : Path
  /-- How many bytes of the archive belong to it. -/
  size : Nat
  /-- How many bytes it has, if that is not the same. -/
  fullSize : Option Nat
  /-- Whether the name is that of a file of which only parts are kept. Then no other one counts. -/
  isNamed : Bool
  /-- How many regions there may be, and those there are, the last one first. -/
  most : Nat
  regions : List Region
  /-- Where the next region starts. -/
  start : Nat
  /-- Whether a list of regions stands before the content, if this is not zero. -/
  version : Nat
  isSound : Bool
  deriving DecidableEq

namespace Description

/-- Nothing but a name, what that stands for, and a size. -/
def plain (name target : Path) (size : Nat) (isSound : Bool) : Description :=
  { name := name, target := target, size := size, fullSize := none, isNamed := false, most := 0,
    regions := [], start := 0, version := 0, isSound := isSound }

def fault (d : Description) : Description := { d with isSound := false }

/-- Gives a new name, unless it is empty. -/
def rename (d : Description) (name : Path) : Description :=
  if name = [] then d else { d with name := name }

def withNumber (d : Description) (n : Option Nat) (f : Nat → Description) : Description :=
  match n with
  | some n => f n
  | none => d.fault

def checked (d : Description) (isSound : Bool) : Description := if isSound then d else d.fault

/-- Takes a record into account. Keys that mean nothing are passed over. -/
def take (d : Description) (r : Record) : Description :=
  let size? := signed? (Nat.pow 2 63 - 1) r.value
  match r.key with
  | "path" => if d.isNamed then d else d.rename r.value
  | "linkpath" => { d with target := r.value }
  | "size" => d.withNumber size? fun n => { d with size := n }
  | "uid" | "gid" => d.checked (signed? (Nat.pow 2 32 - 1) r.value).isSome
  | "mtime" | "atime" | "ctime" => d.checked (isTime r.value)
  | "GNU.volume.size" | "GNU.volume.offset" =>
    d.checked (decimal? (Nat.pow 2 64 - 1) r.value).isSome
  | "GNU.sparse.name" => { d with isNamed := true }.rename r.value
  | "GNU.sparse.size" | "GNU.sparse.realsize" =>
    d.withNumber size? fun n => { d with fullSize := some n }
  | "GNU.sparse.major" =>
    d.withNumber (signed? (Nat.pow 2 32 - 1) r.value) fun n => { d with version := n }
  | "GNU.sparse.minor" => d.checked (signed? (Nat.pow 2 32 - 1) r.value).isSome
  | "GNU.sparse.numblocks" => d.withNumber (decimal? (Nat.pow 2 64 - 1) r.value) fun n =>
    { d with most := n, regions := [], start := 0 }
  | "GNU.sparse.offset" => d.withNumber size? fun n =>
    if d.regions.length < d.most then { d with start := n } else d.fault
  | "GNU.sparse.numbytes" => d.withNumber size? fun n =>
    if d.regions.length < d.most then { d with regions := ⟨d.start, n⟩ :: d.regions, start := 0 }
    else d.fault
  | "GNU.sparse.map" =>
    let parts := ((Text.decodeLossy r.value).splitOn ",").map Path.ofString
    let (regions, isSound) := regionsOf d.most parts none []
    { d with regions := regions }.checked isSound
  | _ => d

end Description

/-- Whether a record is read at once where it is about all that follows. -/
def Record.isImmediate (r : Record) : Bool :=
  ["GNU.volume.label", "GNU.volume.filename", "GNU.volume.size", "GNU.volume.offset"].contains r.key

end StagedTests.Tar
