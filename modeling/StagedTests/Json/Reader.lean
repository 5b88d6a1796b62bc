import StagedTests.Json.Source

/-!
# Reading JSON texts

A recursive reader over the characters of a text. What it returns is never refused here: a text
that is no JSON becomes a `Source` with a fault where the text goes wrong. Every function that
reads returns what it found together with the rest of the text behind it, or without any if the
text cannot be followed further.
-/

namespace StagedTests.Json

/-- The rest of a text, and how many bytes stand before it. -/
structure Cursor where
  place : Nat
  rest : List Char

namespace Cursor

def ofText (s : String) : Cursor := ⟨0, s.toList⟩

/-- The place behind the next byte, if there is one. -/
def peekPlace (c : Cursor) : Nat :=
  match c.rest with
  | [] => c.place
  | _ :: _ => c.place + 1

/-- A fault of the next byte, or of the end of the text. -/
def fault (c : Cursor) (ended other : Fault) : Placed Fault :=
  ⟨if c.rest.isEmpty then ended else other, c.peekPlace⟩

/-- Passes over characters as long as they are of a class. -/
def skipWhile (p : Char → Bool) (place : Nat) : List Char → Cursor
  | [] => ⟨place, []⟩
  | c :: cs => if p c then skipWhile p (place + c.utf8Size) cs else ⟨place, c :: cs⟩

end Cursor

def isGap (c : Char) : Bool :=
  c == ' ' || c == '\n' || c == '\t' || c == '\r'

def Cursor.skipGaps (c : Cursor) : Cursor := skipWhile isGap c.place c.rest

def afterWord : List Char → Cursor → Except (Placed Fault) Cursor
  | [], c => .ok c
  | _ :: _, ⟨place, []⟩ => .error ⟨.endedInValue, place⟩
  | w :: word, ⟨place, c :: cs⟩ =>
    if c = w then afterWord word ⟨place + 1, cs⟩ else .error ⟨.expectedWord, place + 1⟩

def readWord (word : List Char) (v : Span → Source) (opening : Opening) (p : Span) (c : Cursor) :
    Source × Option Cursor :=
  match afterWord word c with
  | .ok c => (v { p with stop := c.place }, some c)
  | .error f => (.unreadable p opening f (some f), none)

/-! ## Strings -/

def hexDigit? (c : Char) : Option Nat :=
  if '0' ≤ c ∧ c ≤ '9' then some (c.toNat - '0'.toNat)
  else if 'a' ≤ c ∧ c ≤ 'f' then some (c.toNat - 'a'.toNat + 10)
  else if 'A' ≤ c ∧ c ≤ 'F' then some (c.toNat - 'A'.toNat + 10)
  else none

def byteSize (cs : List Char) : Nat := cs.foldl (fun n c => n + c.utf8Size) 0

/-- Four hexadecimal digits. Where the text has fewer than four bytes left it counts as ended. -/
def hexQuad (c : Cursor) : Except (Placed Fault) (Nat × Cursor) :=
  let quad := c.rest.take 4
  if byteSize quad < 4 then .error ⟨.endedInString, c.place + byteSize quad⟩
  else match quad.mapM hexDigit? with
    | some digits => .ok (digits.foldl (fun n d => 16 * n + d) 0, ⟨c.place + 4, c.rest.drop 4⟩)
    | none => .error ⟨.invalidEscape, c.place + 4⟩

/-- The first step into the rest of a string. -/
inductive StringStep
  /-- The closing quote. -/
  | closed (rest : Cursor)
  | char (c : Char) (rest : Cursor)
  /-- Half of a surrogate pair, which can be skipped but not read. -/
  | unpaired (found : Placed Fault) (rest : Cursor)
  | fault (read skipped : Placed Fault)

/-- A step that ends at a fault both on reading and on skipping. -/
def StringStep.broken (f : Placed Fault) : StringStep := .fault f f

/-- The step behind the first half of a surrogate pair. -/
def lowSurrogate (high : Nat) (c : Cursor) : StringStep :=
  match c.rest with
  | [] => .unpaired ⟨.endedInString, c.place⟩ c
  | ['\\'] => .unpaired ⟨.endedInString, c.place + 1⟩ c
  | '\\' :: 'u' :: low =>
    match hexQuad ⟨c.place + 2, low⟩ with
    | .error f => .broken f
    | .ok (m, rest) =>
      if 0xdc00 ≤ m ∧ m ≤ 0xdfff then
        .char (Char.ofNat (0x10000 + (high - 0xd800) * 0x400 + (m - 0xdc00))) rest
      else .unpaired ⟨.loneSurrogate, rest.place⟩ c
  | '\\' :: _ => .unpaired ⟨.endOfHexEscape, c.place + 2⟩ c
  | _ => .unpaired ⟨.endOfHexEscape, c.place + 1⟩ c

/-- The step behind `\u`. -/
def unicodeStep (c : Cursor) : StringStep :=
  match hexQuad c with
  | .error f => .broken f
  | .ok (n, rest) =>
    if 0xdc00 ≤ n ∧ n ≤ 0xdfff then .unpaired ⟨.loneSurrogate, rest.place⟩ rest
    else if n < 0xd800 ∨ 0xdbff < n then .char (Char.ofNat n) rest
    else lowSurrogate n rest

/-- The character that a letter behind a backslash stands for. -/
def escaped? : Char → Option Char
  | '"' => some '"'
  | '\\' => some '\\'
  | '/' => some '/'
  | 'b' => some '\x08'
  | 'f' => some '\x0c'
  | 'n' => some '\n'
  | 'r' => some '\r'
  | 't' => some '\t'
  | _ => none

def stringStep (place : Nat) : List Char → StringStep
  | [] => .broken ⟨.endedInString, place⟩
  | '"' :: rest => .closed ⟨place + 1, rest⟩
  | ['\\'] => .broken ⟨.endedInString, place + 1⟩
  | '\\' :: 'u' :: rest => unicodeStep ⟨place + 2, rest⟩
  | '\\' :: c :: rest =>
    match escaped? c with
    | some c => .char c ⟨place + 2, rest⟩
    | none => .broken ⟨.invalidEscape, place + 2⟩
  | c :: rest =>
    if c < ' ' then .fault ⟨.controlCharacter, place + 1⟩ ⟨.controlCharacter, place⟩
    else .char c ⟨place + c.utf8Size, rest⟩

/-- A string behind its opening quote: its characters as they are read, and the rest of the text
as it is found on skipping the string. -/
def stringRest :
    Nat → Cursor → Except (Placed Fault) (List Char) × Except (Placed Fault) Cursor
  | 0, c => (.error ⟨.endedInString, c.place⟩, .error ⟨.endedInString, c.place⟩)
  | fuel + 1, c =>
    match stringStep c.place c.rest with
    | .closed rest => (.ok [], .ok rest)
    | .char ch rest =>
      let (chars, after) := stringRest fuel rest
      (chars.map (ch :: ·), after)
    | .unpaired f rest => (.error f, (stringRest fuel rest).2)
    | .fault f g => (.error f, .error g)

/-- A string value behind its opening quote. -/
def readString (fuel : Nat) (p : Span) (c : Cursor) : Source × Option Cursor :=
  match stringRest fuel c with
  | (.ok chars, .ok rest) => (.string { p with stop := rest.place } (String.ofList chars), some rest)
  | (.ok _, .error f) => (.unreadable p .other f (some f), none)
  | (.error f, .ok rest) => (.unreadable p .other f none, some rest)
  | (.error f, .error g) => (.unreadable p .other f (some g), none)

/-! ## Numbers -/

def digitValue (c : Char) : Nat :=
  c.toNat - '0'.toNat

/-- The greatest whole number that is kept exactly. -/
def maxWhole : Nat := Nat.pow 2 64 - 1

/-- Digits behind those already taken in, as far as 64 bits hold them: the number and how many
digits it has taken in. -/
def takeIn : List Char → Nat → Nat × Nat
  | [], n => (n, 0)
  | c :: cs, n =>
    if 10 * n + digitValue c ≤ maxWhole then
      let (m, k) := takeIn cs (10 * n + digitValue c)
      (m, k + 1)
    else (n, 0)

def digitsValue (cs : List Char) : Nat :=
  cs.foldl (fun n c => 10 * n + digitValue c) 0

/-- The parts of a number as written. The fraction and the exponent may be missing. -/
structure Numeral where
  negative : Bool
  whole : List Char
  fraction : Option (List Char)
  exponent : Option (Bool × List Char)

/-- The number that a numeral stands for. Whole numbers of 64 bits are exact, but for a negative
zero; of any other numeral the digits that 64 bits hold are taken, then the point is moved. None
if the number is too big. -/
def Numeral.value? (n : Numeral) : Option Number :=
  let whole := digitsValue n.whole
  if n.fraction.isNone ∧ n.exponent.isNone ∧
      (if n.negative then whole ≠ 0 ∧ whole ≤ Nat.pow 2 63 else whole ≤ maxWhole) then
    some (.whole (if n.negative then -(whole : Int) else whole))
  else
    let (m, taken) := takeIn n.whole 0
    let (m, places) := takeIn (n.fraction.getD []) m
    let power : Int := match n.exponent with
      | none => 0
      | some (negative, digits) => if negative then -(digitsValue digits : Int) else digitsValue digits
    (Binary64.ofDecimal? n.negative m ((n.whole.length - taken : Nat) - (places : Int) + power)).map
      .real

/-- The greatest exponent that is read to its end. -/
def maxExponent : Nat := Nat.pow 2 31 - 1

/-- How many digits of an exponent are read until it is found to be too great. -/
def exponentDigits : List Char → Nat → Nat
  | [], _ => 0
  | c :: cs, n =>
    if 10 * n + digitValue c ≤ maxExponent then exponentDigits cs (10 * n + digitValue c) + 1 else 1

/-- A place where a digit must stand and does not. On skipping a number a missing digit is a fault
of form even at the end of the text. -/
def noDigit (p : Span) (c : Cursor) : Source × Option Cursor :=
  (.unreadable p .bare (c.fault .endedInValue .invalidNumber) (some ⟨.invalidNumber, c.peekPlace⟩),
    none)

def finishNumber (p : Span) (n : Numeral) (c : Cursor) : Source × Option Cursor :=
  let unread := match n.exponent with
    | none => 0
    | some (_, digits) => digits.length - exponentDigits digits 0
  match n.value? with
  | some v => (.number { p with stop := c.place } v, some c)
  | none => (.unreadable p .bare ⟨.numberOutOfRange, c.place - unread⟩ none, some c)

/-- The digits before a cursor and the cursor behind them. -/
def readDigits (c : Cursor) : List Char × Cursor :=
  let digits := c.rest.takeWhile Char.isDigit
  (digits, ⟨c.place + digits.length, c.rest.dropWhile Char.isDigit⟩)

def readExponent (p : Span) (n : Numeral) (c : Cursor) : Source × Option Cursor :=
  match c.rest with
  | [] => finishNumber p n c
  | e :: rest =>
    if e = 'e' ∨ e = 'E' then
      let (negative, c) := match rest with
        | '-' :: rest => (true, Cursor.mk (c.place + 2) rest)
        | '+' :: rest => (false, Cursor.mk (c.place + 2) rest)
        | _ => (false, Cursor.mk (c.place + 1) rest)
      match readDigits c with
      | ([], c) => noDigit p c
      | (digits, c) => finishNumber p { n with exponent := some (negative, digits) } c
    else finishNumber p n c

def readFraction (p : Span) (n : Numeral) (c : Cursor) : Source × Option Cursor :=
  match c.rest with
  | '.' :: rest =>
    match readDigits ⟨c.place + 1, rest⟩ with
    | ([], c) => noDigit p c
    | (digits, c) => readExponent p { n with fraction := some digits } c
  | _ => readExponent p n c

/-- A number. A zero may not be followed by a digit of the whole part. -/
def readNumber (p : Span) (c : Cursor) : Source × Option Cursor :=
  let (negative, c) := match c.rest with
    | '-' :: rest => (true, Cursor.mk (c.place + 1) rest)
    | _ => (false, c)
  match readDigits c with
  | ([], c) => noDigit p c
  | ('0' :: _ :: _, _) =>
    let f : Placed Fault := ⟨.invalidNumber, c.place + 2⟩
    (.unreadable p .bare f (some f), none)
  | (digits, c) => readFraction p ⟨negative, digits, none, none⟩ c

/-! ## Values -/

/-- Where the end of an array or object is looked for right behind its opening bracket: behind the
end itself, or behind a separator and the gaps that follow it. -/
def innerPlace (close : Char) (separated : Bool) (c : Cursor) : Nat :=
  match c.rest with
  | ch :: rest =>
    if ch = close then c.place + 1
    else if separated ∧ ch = ',' then (Cursor.skipGaps ⟨c.place + 1, rest⟩).place
    else c.place
  | [] => c.place

/-- A value that has what follows it known, and what follows it. -/
def withNext : Source × Option Cursor → Source × Option Cursor
  | (v, none) => (v, none)
  | (v, some c) =>
    let c := c.skipGaps
    (v.before c.place, some c)

/-- A separator behind which an end stands instead of an item or a name. -/
def afterComma (c : Cursor) (close : Char) (skipped : Placed Fault) : Option Source :=
  match c.rest with
  | ch :: _ =>
    if ch = close then some (.unreadable {} .other ⟨.trailingComma, c.peekPlace⟩ (some skipped))
    else none
  | [] => some (.unreadable {} .other ⟨.endedInValue, c.place⟩ (some skipped))

mutual

/-- A value inside of so many brackets, and the text behind it. -/
def readValue : Nat → Nat → Cursor → Source × Option Cursor
  | 0, _, c => (.broken ⟨.tooDeep, c.place⟩, none)
  | fuel + 1, depth, c =>
    let c := c.skipGaps
    let p : Span := ⟨c.place, c.place, c.place, depth⟩
    match c.rest with
    | [] => (.unreadable p .other ⟨.endedInValue, c.place⟩ (some ⟨.endedInValue, c.place⟩), none)
    | 'n' :: rest => readWord "ull".toList .null .null p ⟨c.place + 1, rest⟩
    | 't' :: rest => readWord "rue".toList (.bool · true) .bare p ⟨c.place + 1, rest⟩
    | 'f' :: rest => readWord "alse".toList (.bool · false) .bare p ⟨c.place + 1, rest⟩
    | '"' :: rest => readString (fuel + 1) p ⟨c.place + 1, rest⟩
    | '[' :: rest =>
      let p := { p with depth := depth + 1 }
      let c := Cursor.skipGaps ⟨c.place + 1, rest⟩
      let inner := innerPlace ']' true c
      match c.rest with
      | ']' :: rest => (.array { p with stop := c.place + 1 } inner [] none, some ⟨c.place + 1, rest⟩)
      | [] => (.array p inner [] (some ⟨.endedInList, c.place⟩), none)
      | _ =>
        let (items, e, after) := readItems fuel (depth + 1) c
        (.array { p with stop := (after.map (·.place)).getD c.place } inner items e, after)
    | '\x7b' :: rest =>
      let p := { p with depth := depth + 1 }
      let c := Cursor.skipGaps ⟨c.place + 1, rest⟩
      let inner := innerPlace '\x7d' false c
      match c.rest with
      | '\x7d' :: rest =>
        (.object { p with stop := c.place + 1 } inner [] none, some ⟨c.place + 1, rest⟩)
      | _ =>
        let f := c.fault .endedInObject .nameNotString
        let (members, e, after) := readMembers fuel (depth + 1) c (.broken f)
        (.object { p with stop := (after.map (·.place)).getD c.place } inner members e, after)
    | ch :: _ =>
      if ch = '-' ∨ ch.isDigit then readNumber p c
      else
        let f : Placed Fault := ⟨.expectedValue, c.peekPlace⟩
        (.unreadable p .other f (some f), none)

/-- The items of an array from one item on, and its missing end if it has none. -/
def readItems :
    Nat → Nat → Cursor → List Source × Option (Placed Fault) × Option Cursor
  | 0, _, c => ([], some ⟨.tooDeep, c.place⟩, none)
  | fuel + 1, depth, c =>
    match withNext (readValue fuel depth c) with
    | (v, none) => ([v], none, none)
    | (v, some c) =>
      match c.rest with
      | ']' :: rest => ([v], none, some ⟨c.place + 1, rest⟩)
      | ',' :: rest =>
        let c := Cursor.skipGaps ⟨c.place + 1, rest⟩
        match afterComma c ']' (c.fault .endedInValue .expectedValue) with
        | some missing => ([v, missing], none, none)
        | none =>
          let (items, e, after) := readItems fuel depth c
          (v :: items, e, after)
      | _ => ([v], some (c.fault .endedInList .expectedListEnd), none)

/-- The members of an object from one name on, and its missing end if it has none. Where no name
begins `missing` stands in its place, and nothing is read behind it. -/
def readMembers : Nat → Nat → Cursor → Source →
    List (Source × Source) × Option (Placed Fault) × Option Cursor
  | 0, _, c, _ => ([], some ⟨.tooDeep, c.place⟩, none)
  | fuel + 1, depth, c, missing =>
    match c.rest with
    | '"' :: rest =>
      let p : Span := ⟨c.place, c.place, c.place, depth⟩
      match withNext (readString (fuel + 1) p ⟨c.place + 1, rest⟩) with
      | (name, none) => ([(name, .broken ⟨.expectedColon, c.place⟩)], none, none)
      | (name, some c) =>
        match c.rest with
        | ':' :: rest =>
          match withNext (readValue fuel depth ⟨c.place + 1, rest⟩) with
          | (v, none) => ([(name, v)], none, none)
          | (v, some c) =>
            match c.rest with
            | '\x7d' :: rest => ([(name, v)], none, some ⟨c.place + 1, rest⟩)
            | ',' :: rest =>
              let c := Cursor.skipGaps ⟨c.place + 1, rest⟩
              let skipped := c.fault .endedInObject .nameNotString
              let missing := (afterComma c '\x7d' skipped).getD (.broken skipped)
              let (members, e, after) := readMembers fuel depth c missing
              ((name, v) :: members, e, after)
            | _ => ([(name, v)], some (c.fault .endedInObject .expectedObjectEnd), none)
        | _ => ([(name, .broken (c.fault .endedInObject .expectedColon))], none, none)
    | _ => ([(missing, .broken ⟨.nameNotString, c.place⟩)], none, none)

end

/-- A whole text: its value, and what more than blanks follows it. -/
structure Document where
  value : Source
  trailing : Option (Placed Fault)

def Document.ofText (s : String) : Document :=
  let c := Cursor.ofText s
  let (v, rest) := readValue (2 * c.rest.length + 2) 0 c
  let trailing := rest.bind fun c =>
    let c := c.skipGaps
    if c.rest.isEmpty then none else some ⟨.trailingCharacters, c.peekPlace⟩
  ⟨v, trailing⟩

def ofText (s : String) : Except (Placed Fault) Json := do
  let d := Document.ofText s
  let v ← d.value.toJson
  match d.trailing with
  | some f => .error f
  | none => .ok v

/-- The line and the column of a place in a text. Columns count the bytes of a line. -/
def lineAndColumn (s : String) (place : Nat) : Nat × Nat :=
  (s.toUTF8.data.toList.take place).foldl
    (fun (p : Nat × Nat) (b : UInt8) => if b = 10 then (p.1 + 1, 0) else (p.1, p.2 + 1)) (1, 0)

end StagedTests.Json
