/-!
# The patterns of ignore files

A pattern is matched against the bytes of a path.  A question mark stands for one byte and a star
for any number of them, separators excluded; two stars between separators stand for whole parts of
the path; brackets list bytes, and braces list patterns of which one has to fit.
-/

namespace CodeDigest.Ignore

/-- A piece of a pattern. -/
inductive Piece where
  | bytes (text : List UInt8)
  | anyByte
  /-- Any number of bytes within a part of the path. -/
  | anyName
  /-- Whole parts of the path in front. -/
  | leading
  /-- All that lies below. -/
  | trailing
  /-- Whole parts of the path in the middle, with the separators around them. -/
  | between
  | oneOf (inverted : Bool) (ranges : List (UInt8 × UInt8))
  /-- One of several patterns; no pattern at all stands for the empty one. -/
  | choice (branches : List (List Piece))

/-- A pattern. -/
abbrev Pattern := List Piece

/-! ## Matching -/

/-- The byte of a separator. -/
def separator : UInt8 := 47

/-- What may be left behind a name. -/
def behindName : List UInt8 → List (List UInt8)
  | [] => [[]]
  | b :: rest => if b == separator then [b :: rest] else (b :: rest) :: behindName rest

/-- What may be left behind whole parts of a path. -/
def behindParts : List UInt8 → List (List UInt8)
  | [] => []
  | b :: rest => if b == separator then rest :: behindParts rest else behindParts rest

/-- What may be left behind a text of any kind. -/
def behindAll : List UInt8 → List (List UInt8)
  | [] => [[]]
  | b :: rest => (b :: rest) :: behindAll rest

/-- Whether a byte lies in one of some ranges. -/
def inRanges (rs : List (UInt8 × UInt8)) (b : UInt8) : Bool :=
  rs.any fun (low, high) => low ≤ b && b ≤ high

/-- What may be left behind one byte with a property. -/
def behindByte (p : UInt8 → Bool) : List UInt8 → List (List UInt8)
  | [] => []
  | b :: rest => if p b then [rest] else []

mutual

/-- What may be left of a text behind a piece. -/
def Piece.behind : Piece → List UInt8 → List (List UInt8)
  | .bytes text, cs => if text.isPrefixOf cs then [cs.drop text.length] else []
  | .anyByte, cs => behindByte (· != separator) cs
  | .anyName, cs => behindName cs
  | .leading, cs => cs :: behindParts cs
  | .trailing, cs => (behindByte (· == separator) cs).flatMap behindAll
  | .between, cs =>
    (behindByte (· == separator) cs).flatMap fun rest => rest :: behindParts rest
  | .oneOf inverted rs, cs => behindByte (fun b => inRanges rs b != inverted) cs
  | .choice branches, cs => if branches.isEmpty then [cs] else behindEither branches cs

/-- What may be left of a text behind a pattern. -/
def behindPattern : List Piece → List UInt8 → List (List UInt8)
  | [], cs => [cs]
  | p :: ps, cs => (p.behind cs).flatMap (behindPattern ps)

/-- What may be left of a text behind one of several patterns. -/
def behindEither : List (List Piece) → List UInt8 → List (List UInt8)
  | [], _ => []
  | b :: bs, cs => behindPattern b cs ++ behindEither bs cs

end

/-- Whether a pattern fits a whole text; one that is nothing but two stars fits every text. -/
def Pattern.fits (p : Pattern) (text : String) : Bool :=
  match p with
  | [.leading] => true
  | p => (behindPattern p text.toUTF8.toList).any List.isEmpty

/-! ## Reading -/

/-- The bytes of a character. -/
def bytesOf (c : Char) : List UInt8 := (String.singleton c).toUTF8.toList

/-- The ranges of bytes that a range of characters stands for: it reaches from the last byte of the
one to the first byte of the other, and their remaining bytes stand for themselves. -/
def byteRanges (low high : Char) : List (UInt8 × UInt8) :=
  let alone (bs : List UInt8) : List (UInt8 × UInt8) := bs.map fun b => (b, b)
  if low = high then alone (bytesOf low)
  else
    match (bytesOf low).getLast?, bytesOf high with
    | some l, h :: rest => alone (bytesOf low).dropLast ++ (l, h) :: alone rest
    | _, _ => []

/-- How reading a list of characters between brackets ended. -/
inductive ClassReading where
  | closed (ranges : List (Char × Char)) (rest : List Char)
  | unclosed
  | invalid

/-- Reads a list of characters up to its closing bracket.  `done` holds the ranges so far, the
latest first, and `reaching` says that a hyphen stands behind it. -/
def readClass (done : List (Char × Char)) (reaching : Bool) : List Char → ClassReading
  | [] => .unclosed
  | c :: rest =>
    match done with
    | [] => readClass [(c, c)] false rest
    | (low, high) :: earlier =>
      if c == ']' then
        .closed ((if reaching then ('-', '-') :: done else done).reverse) rest
      else if c == '-' && !reaching then readClass ((low, high) :: earlier) true rest
      else if reaching then
        if c < low then .invalid else readClass ((low, c) :: earlier) false rest
      else readClass ((c, c) :: done) false rest

/-- What has been read of a pattern. -/
structure Reading where
  /-- The pieces of the open branch, the latest first. -/
  current : List Piece
  /-- The branches around and before it, the latest first. -/
  outer : List (List Piece)
  /-- The number of branches before each open brace, the latest first. -/
  opened : List Nat

namespace Reading

/-- Nothing. -/
def empty : Reading := ⟨[], [], []⟩

/-- Adds a piece. -/
def add (r : Reading) (p : Piece) : Reading := { r with current := p :: r.current }

/-- Opens a brace. -/
def open_ (r : Reading) : Reading :=
  ⟨[], r.current :: r.outer, (r.outer.length + 1) :: r.opened⟩

/-- Goes on to the next branch. -/
def next (r : Reading) : Reading := ⟨[], r.current :: r.outer, r.opened⟩

/-- Whether a branch stands for the empty text. -/
def isVoid (branch : List Piece) : Bool :=
  branch.all fun
    | .choice [] => true
    | _ => false

/-- Closes a brace; branches that stand for the empty text do not count. -/
def close? (r : Reading) : Option Reading :=
  match r.opened with
  | [] => none
  | start :: opened =>
    let branches := r.current :: r.outer
    let inside := branches.length - start
    match branches.drop inside with
    | [] => none
    | current :: outer =>
      let choices := ((branches.take inside).reverse.map List.reverse).filter (!isVoid ·)
      some ⟨.choice choices :: current, outer, opened⟩

/-- Two stars that stand for no whole part. -/
def addStars (r : Reading) : Reading := (r.add .anyName).add .anyName

/-- Replaces the piece in front, a separator, by one for whole parts. -/
def addParts (r : Reading) (p : Piece) : Reading :=
  match r.current with
  | .leading :: rest => { r with current := .leading :: rest }
  | .trailing :: rest => { r with current := .trailing :: rest }
  | _ :: rest => { r with current := p :: rest }
  | [] => r.add p

/-- Reads two stars, `before` being the character in front of them and `rest` what follows. -/
def stars (r : Reading) (before : Option Char) (rest : List Char) :
    Reading × Option Char × List Char :=
  let branching := !r.outer.isEmpty
  if r.current.isEmpty then
    match rest with
    | [] => (r.add .leading, some '*', [])
    | '/' :: behind => (r.add .leading, some '/', behind)
    | _ => (r.addStars, some '*', rest)
  else if before != some '/' && (!branching || (before != some ',' && before != some '{')) then
    (r.addStars, some '*', rest)
  else
    match rest with
    | [] => (r.addParts .trailing, some '*', [])
    | '/' :: behind => (r.addParts .between, some '/', behind)
    | c :: _ =>
      if branching && (c == ',' || c == '}') then (r.addParts .trailing, some '*', rest)
      else (r.addStars, some '*', rest)

end Reading

/-- Reads a pattern.  `before` is the character in front, and `brackets` says whether brackets still
have a meaning: they lose it at one that is not closed. -/
def readFrom (r : Reading) (before : Option Char) (brackets : Bool) :
    (count : Nat) → List Char → Option Pattern
  | 0, _ => none
  | count + 1, cs =>
    match cs with
    | [] => if r.outer.isEmpty then some r.current.reverse else none
    | '?' :: rest => readFrom (r.add .anyByte) (some '?') brackets count rest
    | '*' :: '*' :: rest =>
      let (r, before, rest) := r.stars before rest
      readFrom r before brackets count rest
    | '*' :: rest => readFrom (r.add .anyName) (some '*') brackets count rest
    | '{' :: rest => readFrom r.open_ (some '{') brackets count rest
    | '}' :: rest =>
      match r.close? with
      | some r => readFrom r (some '}') brackets count rest
      | none => none
    | '\\' :: c :: rest => readFrom (r.add (.bytes (bytesOf c))) (some c) brackets count rest
    | '\\' :: [] => none
    | c :: rest =>
      let literal := readFrom (r.add (.bytes (bytesOf c))) (some c) brackets count rest
      if c == ',' && !r.opened.isEmpty then readFrom r.next (some ',') brackets count rest
      else if c == '[' && brackets then
        let (inverted, inner) :=
          match rest with
          | '!' :: inner => (true, inner)
          | '^' :: inner => (true, inner)
          | _ => (false, rest)
        match readClass [] false inner with
        | .closed ranges behind =>
          let piece := .oneOf inverted (ranges.flatMap fun (low, high) => byteRanges low high)
          readFrom (r.add piece) (some ']') brackets count behind
        | .unclosed => readFrom (r.add (.bytes (bytesOf c))) (some c) false count rest
        | .invalid => none
      else literal

/-- Reads a pattern, if the text is one. -/
def Pattern.ofText? (text : List Char) : Option Pattern :=
  readFrom .empty none true (text.length + 1) text

end CodeDigest.Ignore
