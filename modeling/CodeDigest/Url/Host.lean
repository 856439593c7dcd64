import CodeDigest.Text.Case
import CodeDigest.Text.Pieces
import CodeDigest.Url.HostTable
import CodeDigest.Url.Percent
import CodeDigest.Url.Punycode

/-!
# Hosts

The host of an address is a domain name or a number: an address of version 4 or, between brackets,
of version 6.  A domain is brought into one form: percent signs are decoded, characters are replaced
by the plain ones that they stand for, letters are in lowercase, and labels that are not ASCII are
written in Punycode.  A mark that combines with the letter in front of it stays on its own.  A name
whose last label is a number has to be an address of version 4.
-/

namespace CodeDigest

/-- Why a text is no address. -/
inductive UrlFault where
  | relative
  | emptyHost
  | port
  | ipv4
  | ipv6
  | domain
  | hostCharacter
deriving Repr, DecidableEq

/-- The wording of a fault. -/
def UrlFault.message : UrlFault → String
  | relative => "relative URL without a base"
  | emptyHost => "empty host"
  | port => "invalid port number"
  | ipv4 => "invalid IPv4 address"
  | ipv6 => "invalid IPv6 address"
  | domain => "invalid international domain name"
  | hostCharacter => "invalid domain character"

/-- The host of an address. -/
inductive Host where
  | domain (name : String)
  /-- A number of 32 bits. -/
  | ipv4 (address : Nat)
  /-- Eight numbers of 16 bits. -/
  | ipv6 (groups : List Nat)
deriving Repr, DecidableEq

namespace Host

/-! ## Numbers -/

/-- The number that digits denote in a base, if each of them is a digit there. -/
def number? (base : Nat) (cs : List Char) : Option Nat :=
  cs.foldl
    (fun n c => do
      let n ← n
      let d ← Url.hexValue? c
      if d < base then some (n * base + d) else none)
    (some 0)

/-- One part of an address of version 4: hexadecimal behind `0x`, octal behind `0`, else decimal. -/
def ipv4Part? : List Char → Option Nat
  | [] => none
  | '0' :: x :: cs => if x == 'x' || x == 'X' then number? 16 cs else number? 8 (x :: cs)
  | cs => number? 10 cs

/-- The labels of a name, without the empty one behind a dot at its end. -/
def labels (cs : List Char) : List (List Char) :=
  let all := Text.split '.' cs
  if 1 < all.length && all.getLast? == some [] then all.dropLast else all

/-- Whether the last label is a number, so that the name has to be an address of version 4. -/
def endsInNumber (cs : List Char) : Bool :=
  match (labels cs).getLast? with
  | some last => !last.isEmpty && (last.all Char.isDigit || (ipv4Part? last).isSome)
  | none => false

/-- The address of parts: each is a byte, but the last one fills the bytes that are left. -/
def ipv4OfParts? (parts : List Nat) : Option Nat :=
  match parts.reverse with
  | [] => none
  | last :: front =>
    if 3 < front.length || front.any (255 < ·) || Nat.pow 256 (4 - front.length) ≤ last then none
    else
      let high := front.reverse.foldl (fun n p => n * 256 + p) 0
      some (high * Nat.pow 256 (4 - front.length) + last)

/-- The address of version 4 that a name stands for. -/
def ipv4? (cs : List Char) : Option Nat := ((labels cs).mapM ipv4Part?).bind ipv4OfParts?

/-- A decimal byte without needless zeros. -/
def byte? (cs : List Char) : Option Nat :=
  if cs.isEmpty || 3 < cs.length || (cs.head? == some '0' && cs.length != 1) then none
  else (number? 10 cs).filter (· < 256)

/-- A group of an address of version 6. -/
def group? (cs : List Char) : Option Nat :=
  if cs.isEmpty || 4 < cs.length then none else number? 16 cs

/-- The last group of an address of version 6, which may be two groups in the form of version 4. -/
def lastGroups? (cs : List Char) : Option (List Nat) :=
  match (Text.split '.' cs).mapM byte? with
  | some [a, b, c, d] => some [256 * a + b, 256 * c + d]
  | _ => (group? cs).map ([·])

/-- The groups between colons; nothing at all is no group. -/
def groups? (last? : List Char → Option (List Nat)) (cs : List Char) : Option (List Nat) :=
  if cs.isEmpty then some []
  else
    match (Text.split ':' cs).reverse with
    | [] => none
    | last :: front => do some ((← front.reverse.mapM group?) ++ (← last? last))

/-- The groups of an address of version 6; two colons stand for one zero or more. -/
def ipv6? (cs : List Char) : Option (List Nat) :=
  match Text.cut? [':', ':'] cs with
  | some (before, after) => do
    let front ← groups? (fun cs => (group? cs).map ([·])) before
    let back ← groups? lastGroups? after
    let count := front.length + back.length
    if count < 8 then some (front ++ List.replicate (8 - count) 0 ++ back) else none
  | none => (groups? lastGroups? cs).filter (·.length == 8)

/-! ## Domain names -/

/-- A character of a name in its plain form, which is its lowercase form unless the tables give
another one. -/
def plainForm (c : Char) : List Char :=
  if c.toNat < 128 then [c.toLower]
  else if Text.inCaseRanges ignoredRanges c then []
  else
    match plainExpansions.lookup c.toNat, plainRuns.find? (·.covers c.toNat) with
    | some text, _ => text.toList
    | none, some run => [Char.ofNat (run.imageOf c.toNat)]
    | none, none => Text.lowercaseChar c

/-- Characters that no name holds. -/
def isForbidden (c : Char) : Bool :=
  c.toNat ≤ 0x20 || c.toNat == 0x7F || "%#/:<>?@[\\]^|".toList.contains c
    || Text.inCaseRanges unheldRanges c

/-- Whether a label in Punycode is one that `label` writes. -/
def isSound (encoded : List Char) : Bool :=
  match Url.Punycode.decode? encoded with
  | some text => text.any (128 ≤ ·.toNat) && Url.Punycode.encode text == encoded
  | none => false

/-- A label in ASCII. -/
def label? (cs : List Char) : Option (List Char) :=
  if cs.any (128 ≤ ·.toNat) then some ("xn--".toList ++ Url.Punycode.encode cs)
  else
    match Text.dropPrefix? "xn--".toList cs with
    | some encoded => if isSound encoded then some cs else none
    | none => some cs

/-- A name in ASCII. -/
def ascii? (name : String) : Option (List Char) := do
  let cs := name.toList.flatMap plainForm
  if cs.any isForbidden then none
  else some (List.intercalate ['.'] (← (Text.split '.' cs).mapM label?))

/-! ## Reading and writing -/

/-- A host between brackets. -/
def ofBrackets (cs : List Char) : Except UrlFault Host :=
  match Text.dropSuffix? [']'] cs with
  | some inner =>
    match ipv6? inner with
    | some groups => .ok (.ipv6 groups)
    | none => .error .ipv6
  | none => .error .ipv6

/-- The host that a text names. -/
def ofText : List Char → Except UrlFault Host
  | '[' :: cs => ofBrackets cs
  | cs =>
    match (String.fromUTF8? ⟨(Url.percentDecode cs).toArray⟩).bind ascii? with
    | none => .error .domain
    | some [] => .error .emptyHost
    | some name =>
      if endsInNumber name then
        match ipv4? name with
        | some address => .ok (.ipv4 address)
        | none => .error .ipv4
      else .ok (.domain (String.ofList name))

/-- The length of the run of zeros in front. -/
def zeros (groups : List Nat) : Nat := (groups.takeWhile (· == 0)).length

/-- Where the longest run of zeros starts, the first of several, and how long it is. -/
def longestZeros (groups : List Nat) : Nat × Nat :=
  (List.range groups.length).foldl
    (fun best start =>
      let n := zeros (groups.drop start)
      if best.2 < n then (start, n) else best)
    (0, 0)

/-- The groups between colons. -/
def writeGroups (groups : List Nat) : String :=
  joined ":" (groups.map fun n => String.ofList (Nat.toDigits 16 n))

/-- The text of a host. -/
def toText : Host → String
  | domain name => name
  | ipv4 n =>
    joined "." ([n / 0x1000000, n / 0x10000 % 256, n / 256 % 256, n % 256].map toString)
  | ipv6 groups =>
    let (start, count) := longestZeros groups
    let inner :=
      if 2 ≤ count then
        writeGroups (groups.take start) ++ "::" ++ writeGroups (groups.drop (start + count))
      else writeGroups groups
    "[" ++ inner ++ "]"

/-- A host behind a scheme that gives hosts no form, as it is written in an address. -/
def writeOpaque : List Char → Except UrlFault String
  | '[' :: cs => (ofBrackets cs).map toText
  | cs =>
    if cs.any ("\u0000\t\n\r #/:<>?@[\\]^|".toList.contains ·) then .error .hostCharacter
    else .ok (String.ofList (Url.percentEncode [] cs))

end Host

end CodeDigest
