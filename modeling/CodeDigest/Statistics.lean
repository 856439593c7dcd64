import CodeDigest.Source

/-!
# Counts over a code base

How many files, lines, classes and business methods there are, how many files of each type, and two
averages.  The lines of a file are a number in its record, so their sums are kept in words of 64
bits.  Files, classes and methods are counted one by one, and no code base that can be held has more
of them than a word can count.  An average is rounded down, and is 0 when there is nothing to take
it over.
-/

namespace CodeDigest

/-- The counts of a code base. -/
structure Statistics where
  totalFiles : Nat
  totalLines : Nat
  totalCodeLines : Nat
  totalClasses : Nat
  /-- Only methods that do some of the application's work. -/
  totalMethods : Nat
  /-- File types with the number of their files, in the order of the types. -/
  fileTypes : List (String × Nat)
  averageFileSize : Nat
  averageMethodsPerClass : Nat
deriving Repr, DecidableEq

namespace Statistics

/-- A sum in a word of 64 bits. -/
def word (n : Nat) : Nat := n % 0x10000000000000000

/-- Counts one more occurrence of a key; the keys stay in order. -/
def countKey (key : String) : List (String × Nat) → List (String × Nat)
  | [] => [(key, 1)]
  | (k, n) :: rest =>
    if key = k then (k, n + 1) :: rest
    else if key < k then (key, 1) :: (k, n) :: rest
    else (k, n) :: countKey key rest

/-- Counting a key adds one to the counts. -/
theorem sum_countKey (key : String) (counts : List (String × Nat)) :
    sumOf ((countKey key counts).map (·.2)) = sumOf (counts.map (·.2)) + 1 := by
  induction counts with
  | nil => rfl
  | cons entry rest ih =>
    obtain ⟨k, n⟩ := entry
    simp only [countKey]
    split
    · simp; omega
    · split
      · simp; omega
      · simp [ih]; omega

/-- The number of business methods in a file. -/
def businessCount (f : SourceFile) : Nat := sumOf (f.classes.map fun c => c.businessMethods.length)

/-- The counts of a list of files. -/
def ofFiles (files : List SourceFile) : Statistics :=
  let lines := word (sumOf (files.map (·.totalLines)))
  let classes := sumOf (files.map (·.classes.length))
  let methods := sumOf (files.map businessCount)
  { totalFiles := files.length
    totalLines := lines
    totalCodeLines := word (sumOf (files.map (·.codeLines)))
    totalClasses := classes
    totalMethods := methods
    fileTypes := files.foldl (fun counts f => countKey f.fileType counts) []
    averageFileSize := lines / files.length
    averageMethodsPerClass := methods / classes }

open Json

/-- The counts as JSON. -/
def toJson (s : Statistics) : Json :=
  .object
    [("total_files", nat s.totalFiles),
     ("total_lines", nat s.totalLines),
     ("total_code_lines", nat s.totalCodeLines),
     ("total_classes", nat s.totalClasses),
     ("total_methods", nat s.totalMethods),
     ("file_types", .object (s.fileTypes.map fun (k, n) => (k, nat n))),
     ("average_file_size", nat s.averageFileSize),
     ("average_methods_per_class", nat s.averageMethodsPerClass)]

/-- Reads counts. -/
def ofJson? : Json → Option Statistics :=
  readRecord do
    let totalFiles ← field "total_files" readNat
    let totalLines ← field "total_lines" readNat
    let totalCodeLines ← field "total_code_lines" readNat
    let totalClasses ← field "total_classes" readNat
    let totalMethods ← field "total_methods" readNat
    let fileTypes ← field "file_types" (readTable readNat)
    let averageFileSize ← field "average_file_size" readNat
    let averageMethodsPerClass ← field "average_methods_per_class" readNat
    return ⟨totalFiles, totalLines, totalCodeLines, totalClasses, totalMethods, fileTypes,
      averageFileSize, averageMethodsPerClass⟩

end Statistics

end CodeDigest
