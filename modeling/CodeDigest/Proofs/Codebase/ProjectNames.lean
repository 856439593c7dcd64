import CodeDigest.Proofs.Codebase.Dependencies
import CodeDigest.Proofs.Text.Splitting

/-!
# The name of a project

A project may be named by its package manifest, its Maven build file, its setup script and its
directory; `Names` says what is a name in each of them.  The first source that has a name counts,
and the name is taken as it is written, without a look at what it says.

So a blank name in a manifest hides the names behind it, and blanks around a name stay.  The
dependencies come from the same tags, trimmed and with the blank ones passed over; a name that is
treated like that is `NamesTrimmed`, and `nameOf_due` compares the two.
-/

namespace CodeDigest.Detection

variable {t : FileTree} {root : String} {c : Char} {cs inner behind rest : List Char}

/-! ## Quoted names -/

/-- A text starts with `name=` and a name between quotation marks, which need not be alike. -/
structure QuotedHere (cs inner : List Char) : Prop where
  eq : ∃ q q' behind, isQuote q = true ∧ isQuote q' = true ∧
    cs = "name=".toList ++ q :: (inner ++ q' :: behind)
  nonempty : inner ≠ []
  plain : ∀ c ∈ inner, isQuote c = false

/-- The first such name in a text. -/
inductive FirstQuoted : List Char → List Char → Prop
  | here {cs inner : List Char} (h : QuotedHere cs inner) : FirstQuoted cs inner
  | behind {c : Char} {rest inner : List Char} (h : ∀ other, ¬QuotedHere (c :: rest) other)
      (more : FirstQuoted rest inner) : FirstQuoted (c :: rest) inner

lemma span_of_quote {q : Char} (hplain : ∀ c ∈ inner, isQuote c = false) (hq : isQuote q = true) :
    (inner ++ q :: behind).span (!isQuote ·) = (inner, q :: behind) := by
  have hall : ∀ c ∈ inner, (!isQuote c) = true := by simpa using hplain
  exact Text.span_run hall (by simp [hq]) behind

/-- A quoted name ends at the first quotation mark. -/
lemma eq_of_span {a b : Char} {as bs : List Char}
    (h : cs.span (!isQuote ·) = (a :: as, b :: bs)) :
    cs = (a :: as) ++ b :: bs ∧ (∀ c ∈ a :: as, isQuote c = false) ∧ isQuote b = true := by
  rw [List.span_eq_takeWhile_dropWhile, Prod.mk.injEq] at h
  obtain ⟨htake, hdrop⟩ := h
  refine ⟨by rw [← htake, ← hdrop, List.takeWhile_append_dropWhile], fun c hc => ?_, ?_⟩
  · rw [← htake] at hc
    simpa using List.mem_takeWhile_imp hc
  · have hhead := List.head?_dropWhile_not (!isQuote ·) cs
    rw [hdrop] at hhead
    simpa using hhead

lemma quotedName?_of_here (h : QuotedHere cs inner) :
    quotedName? cs = some (String.ofList inner) := by
  obtain ⟨⟨q, q', behind, hq, hq', rfl⟩, hne, hplain⟩ := h
  obtain ⟨a, as, rfl⟩ := List.exists_cons_of_ne_nil hne
  have hdrop : Text.dropPrefix? "name=".toList
      ('n' :: ("ame=".toList ++ q :: (a :: as ++ q' :: behind)))
        = some (q :: (a :: as ++ q' :: behind)) := Text.dropPrefix?_eq_some_iff.mpr rfl
  change quotedName? ('n' :: ("ame=".toList ++ q :: (a :: as ++ q' :: behind))) = _
  rw [quotedName?]
  simp only [hdrop, hq, span_of_quote hplain hq']

lemma quotedName?_of_not_here (h : ∀ inner, ¬QuotedHere (c :: rest) inner) :
    quotedName? (c :: rest) = quotedName? rest := by
  rw [quotedName?]
  split
  next q inner hdrop =>
    split
    next a as b bs hq hspan =>
      obtain ⟨rfl, hplain, hb⟩ := eq_of_span hspan
      refine absurd ⟨⟨q, b, bs, hq, hb, ?_⟩, List.cons_ne_nil a as, hplain⟩ (h (a :: as))
      exact (Text.dropPrefix?_eq_some_iff.mp hdrop)
    next => rfl
  next => rfl

lemma quotedName?_eq_some_iff {s : String} :
    quotedName? cs = some s ↔ ∃ inner, FirstQuoted cs inner ∧ s = String.ofList inner := by
  constructor
  · intro h
    induction cs with
    | nil => cases h
    | cons c rest ih =>
        by_cases hhere : ∃ inner, QuotedHere (c :: rest) inner
        · obtain ⟨inner, hinner⟩ := hhere
          rw [quotedName?_of_here hinner] at h
          exact ⟨inner, .here hinner, (Option.some.inj h).symm⟩
        · rw [not_exists] at hhere
          rw [quotedName?_of_not_here hhere] at h
          obtain ⟨inner, hinner, hs⟩ := ih h
          exact ⟨inner, .behind hhere hinner, hs⟩
  · rintro ⟨inner, hinner, rfl⟩
    induction hinner with
    | here hhere => exact quotedName?_of_here hhere
    | behind hnot _ ih => rw [quotedName?_of_not_here hnot, ih]

/-! ## Where names come from -/

/-- What may name a project. -/
inductive NameSource
  | manifest
  | maven
  | setup
  | directory
  deriving DecidableEq

/-- The sources, those that count more in front. -/
def NameSource.order : List NameSource := [.manifest, .maven, .setup, .directory]

/-- A source has a name, as it is written there. -/
inductive Names (t : FileTree) (root : String) : NameSource → String → Prop
  | manifest {text s : String} {v : Json} (read : readAt? t root "package.json" = some text)
      (json : Json.ofString? text = some v) (name : v.get? "name" = some (.string s)) :
      Names t root .manifest s
  | maven {text : String} {inner : List Char} {inners : List (List Char)}
      (read : readAt? t root "pom.xml" = some text)
      (first : Matches "<artifactId>".toList "</artifactId>".toList text.toList (inner :: inners)) :
      Names t root .maven (String.ofList inner)
  | setup {text : String} {inner : List Char} (read : readAt? t root "setup.py" = some text)
      (first : FirstQuoted text.toList inner) : Names t root .setup (String.ofList inner)
  | directory {above : List String} {s : String}
      (leads : t.canonical? root = some (above ++ [s])) : Names t root .directory s

/-- A source has a name that says something when it is trimmed. -/
def NamesTrimmed (t : FileTree) (root : String) (source : NameSource) (s : String) : Prop :=
  ∃ written, Names t root source written ∧ trimmed? written = some s

/-- What the first source says that says anything. -/
inductive FirstSaid (P : NameSource → String → Prop) : List NameSource → String → Prop
  | here {source : NameSource} {sources : List NameSource} {s : String} (h : P source s) :
      FirstSaid P (source :: sources) s
  | next {source : NameSource} {sources : List NameSource} {s : String} (h : ∀ s, ¬P source s)
      (more : FirstSaid P sources s) : FirstSaid P (source :: sources) s

/-- The name in a source. -/
def nameIn? (t : FileTree) (root : String) : NameSource → Option String
  | .manifest => (readAt? t root "package.json").bind manifestName?
  | .maven => (readAt? t root "pom.xml").bind fun text => (artifacts text).head?
  | .setup => (readAt? t root "setup.py").bind fun text => quotedName? text.toList
  | .directory => (t.canonical? root).bind List.getLast?

lemma head?_artifacts (text : String) :
    (artifacts text).head? = (artifactTexts text).head?.map String.ofList := List.head?_map

/-- Each source has the name that is looked for in it. -/
lemma names_iff {source : NameSource} {s : String} :
    Names t root source s ↔ nameIn? t root source = some s := by
  constructor
  · rintro (⟨read, json, name⟩ | ⟨read, first⟩ | ⟨read, first⟩ | leads)
    · simp only [nameIn?, read, Option.bind_some, manifestName?, json, name, Json.string?]
    · rename_i text inner inners
      have hfound : artifactTexts text = inner :: inners :=
        first.unique (matches_artifactTexts text)
      rw [nameIn?, read, Option.bind_some, head?_artifacts, hfound]
      rfl
    · rw [nameIn?, read, Option.bind_some]
      exact quotedName?_eq_some_iff.mpr ⟨_, first, rfl⟩
    · rw [nameIn?, leads, Option.bind_some, List.getLast?_concat]
  · intro h
    cases source with
    | manifest =>
        obtain ⟨text, read, hname⟩ := Option.bind_eq_some_iff.mp h
        obtain ⟨v, json, hv⟩ := Option.bind_eq_some_iff.mp hname
        obtain ⟨x, hx, hstring⟩ := Option.bind_eq_some_iff.mp hv
        cases x with
        | string written =>
            cases hstring
            exact .manifest read json hx
        | _ => cases hstring
    | maven =>
        obtain ⟨text, read, hname⟩ := Option.bind_eq_some_iff.mp h
        rw [head?_artifacts] at hname
        obtain ⟨inner, hinner, rfl⟩ := Option.map_eq_some_iff.mp hname
        obtain ⟨inners, hfound⟩ := List.head?_eq_some_iff.mp hinner
        exact .maven read (hfound ▸ matches_artifactTexts text)
    | setup =>
        obtain ⟨text, read, hname⟩ := Option.bind_eq_some_iff.mp h
        obtain ⟨inner, first, rfl⟩ := quotedName?_eq_some_iff.mp hname
        exact .setup read first
    | directory =>
        obtain ⟨names, hnames, hlast⟩ := Option.bind_eq_some_iff.mp h
        obtain ⟨above, rfl⟩ := List.getLast?_eq_some_iff.mp hlast
        exact .directory hnames

lemma nameOf_eq (t : FileTree) (root : String) :
    nameOf t root = (NameSource.order.findSome? (nameIn? t root)).getD root := by
  unfold nameOf NameSource.order
  simp only [List.findSome?_cons, List.findSome?_nil, nameIn?]
  cases (readAt? t root "package.json").bind manifestName? with
  | some s => rfl
  | none =>
      cases (readAt? t root "pom.xml").bind fun text => (artifacts text).head? with
      | some s => rfl
      | none =>
          cases (readAt? t root "setup.py").bind fun text => quotedName? text.toList with
          | some s => rfl
          | none => cases (t.canonical? root).bind List.getLast? <;> rfl

/-! ## The name that counts -/

section Said

variable {P : NameSource → String → Prop} {f : NameSource → Option String}
  {sources : List NameSource} {s : String}

lemma firstSaid_iff (h : ∀ source s, P source s ↔ f source = some s) :
    FirstSaid P sources s ↔ sources.findSome? f = some s := by
  induction sources with
  | nil => exact ⟨fun hsaid => (nomatch hsaid), fun hnone => (nomatch hnone)⟩
  | cons source sources ih =>
      rw [List.findSome?_cons]
      cases hf : f source with
      | some found =>
          constructor
          · rintro (hhere | ⟨hnot, -⟩)
            · exact hf.symm.trans ((h source s).mp hhere)
            · exact absurd ((h source found).mpr hf) (hnot found)
          · exact fun heq => .here ((h source s).mpr (hf.trans heq))
      | none =>
          have hnot : ∀ s, ¬P source s := fun s hs => by
            have := (h source s).mp hs
            rw [hf] at this
            cases this
          constructor
          · rintro (hhere | ⟨-, more⟩)
            · exact absurd hhere (hnot s)
            · exact ih.mp more
          · exact fun heq => .next hnot (ih.mpr heq)

/-- A name that says something as it is written is also the first one when all are trimmed. -/
lemma findSome?_trimmed (h : sources.findSome? f = some s) (htold : Told s) :
    sources.findSome? (fun source => (f source).bind trimmed?) = some s := by
  induction sources with
  | nil => cases h
  | cons source sources ih =>
      rw [List.findSome?_cons] at h ⊢
      cases hf : f source with
      | some found =>
          rw [hf] at h
          cases h
          rw [Option.bind_some, htold.trimmed?_eq]
      | none =>
          rw [hf] at h
          exact ih h

end Said

lemma namesTrimmed_iff {source : NameSource} {s : String} :
    NamesTrimmed t root source s ↔ (nameIn? t root source).bind trimmed? = some s := by
  rw [Option.bind_eq_some_iff]
  exact exists_congr fun _ => and_congr_left' names_iff

lemma firstSaid_names_iff {sources : List NameSource} {s : String} :
    FirstSaid (Names t root) sources s ↔ sources.findSome? (nameIn? t root) = some s :=
  firstSaid_iff fun _ _ => names_iff

lemma firstSaid_namesTrimmed_iff {sources : List NameSource} {s : String} :
    FirstSaid (NamesTrimmed t root) sources s ↔
      sources.findSome? (fun source => (nameIn? t root source).bind trimmed?) = some s :=
  firstSaid_iff (P := NamesTrimmed t root) fun _ _ => namesTrimmed_iff

/-- In a directory with a name that is not blank, a project has the name that is written in the
first source that has any.  There is one name that is due to it: the first one of which anything is
left when it is trimmed.  The project has this name just when the name that it has says something,
without blanks at its ends. -/
theorem nameOf_due {own : String} (h : Names t root .directory own) (hown : trimmed own ≠ "") :
    FirstSaid (Names t root) NameSource.order (nameOf t root) ∧ ∃ due,
      FirstSaid (NamesTrimmed t root) NameSource.order due ∧
      (∀ due', FirstSaid (NamesTrimmed t root) NameSource.order due' → due' = due) ∧ Told due ∧
      (nameOf t root = due ↔ Told (nameOf t root)) := by
  have hdirectory : nameIn? t root .directory = some own := names_iff.mp h
  have hwritten : NameSource.order.findSome? (nameIn? t root) = some (nameOf t root) := by
    cases hfound : NameSource.order.findSome? (nameIn? t root) with
    | some s => rw [nameOf_eq, hfound, Option.getD_some]
    | none =>
        have hnone := List.findSome?_eq_none_iff.mp hfound .directory (by decide)
        rw [hdirectory] at hnone
        cases hnone
  obtain ⟨due, hdue⟩ : ∃ due,
      NameSource.order.findSome? (fun source => (nameIn? t root source).bind trimmed?)
        = some due := by
    refine Option.ne_none_iff_exists'.mp fun hfound => ?_
    have hnone := List.findSome?_eq_none_iff.mp hfound .directory (by decide)
    rw [hdirectory, Option.bind_some, trimmed?] at hnone
    simp [hown] at hnone
  have htold : Told due := by
    obtain ⟨source, -, hsource⟩ := List.exists_of_findSome?_eq_some hdue
    obtain ⟨written, -, hsaid⟩ := Option.bind_eq_some_iff.mp hsource
    exact told_of_trimmed? hsaid
  refine ⟨firstSaid_names_iff.mpr hwritten, due,
    firstSaid_namesTrimmed_iff.mpr hdue, fun due' hdue' => ?_, htold,
    fun heq => heq ▸ htold, fun hsays => ?_⟩
  · have hfound := firstSaid_namesTrimmed_iff.mp hdue'
    exact Option.some.inj (hfound.symm.trans hdue)
  · exact Option.some.inj ((findSome?_trimmed hwritten hsays).symm.trans hdue)

/-! ## Projects with more than one source -/

variable {es : List (String × Node)}

lemma names_project_directory : Names (FileTree.project es) "." .directory "project" := by
  have hcanonical : (FileTree.project es).canonical? "." = some ([] ++ ["project"]) := by
    rw [FileTree.canonical?, FileTree.locate_project_here]
    rfl
  exact .directory hcanonical

lemma trimmed_project : trimmed "project" ≠ "" := by decide +kernel

/-- A manifest that has a number for a name, a Maven build file in which no name is complete, and a
setup script with a name. -/
theorem nameOf_due_inventory :
    let t := FileTree.project [("package.json", .file "\x7b\"name\": 3\x7d".toUTF8),
      ("pom.xml", .file "<artifactId>".toUTF8),
      ("setup.py", .file "setup(name='inventory')".toUTF8)]
    Names t "." .directory "project" ∧ trimmed "project" ≠ "" ∧
      FirstSaid (NamesTrimmed t ".") NameSource.order "inventory" ∧ nameOf t "." = "inventory" := by
  intro t
  have hmanifest : readAt? t "." "package.json" = some "\x7b\"name\": 3\x7d" :=
    readAt?_project (by decide) (by rfl)
  have hmaven : readAt? t "." "pom.xml" = some "<artifactId>" :=
    readAt?_project (by decide) (by rfl)
  have hsetup : readAt? t "." "setup.py" = some "setup(name='inventory')" :=
    readAt?_project (by decide) (by rfl)
  have hname : nameOf t "." = "inventory" := by
    have hnumber : manifestName? "\x7b\"name\": 3\x7d" = none := by decide +kernel
    have hopen : (artifacts "<artifactId>").head? = none := by decide +kernel
    have hquoted : quotedName? "setup(name='inventory')".toList = some "inventory" := by
      decide +kernel
    simp only [nameOf, hmanifest, hmaven, hsetup, Option.bind_some, hnumber, hopen, hquoted]
    rfl
  obtain ⟨-, due, hdue, -, -, hiff⟩ := nameOf_due names_project_directory trimmed_project
  obtain rfl : nameOf t "." = due := hiff.mpr (by
    rw [hname]
    exact ⟨by decide, by decide⟩)
  exact ⟨names_project_directory, trimmed_project, hname ▸ hdue, hname⟩

/-- A blank name in a manifest counts, although the directory has a name. -/
theorem nameOf_of_blank_manifest :
    let t := FileTree.project [("package.json", .file "\x7b\"name\": \" \"\x7d".toUTF8)]
    Names t "." .directory "project" ∧ FirstSaid (NamesTrimmed t ".") NameSource.order "project" ∧
      nameOf t "." = " " := by
  intro t
  have hmanifest : readAt? t "." "package.json" = some "\x7b\"name\": \" \"\x7d" :=
    readAt?_project (by decide) (by rfl)
  have hmaven : readAt? t "." "pom.xml" = none := readAt?_project_missing (by decide) (by rfl)
  have hsetup : readAt? t "." "setup.py" = none := readAt?_project_missing (by decide) (by rfl)
  have hblank : manifestName? "\x7b\"name\": \" \"\x7d" = some " " := by decide +kernel
  refine ⟨names_project_directory, firstSaid_namesTrimmed_iff.mpr ?_, ?_⟩
  · have hdirectory : nameIn? t "." .directory = some "project" :=
      names_iff.mp names_project_directory
    have htrimmed : trimmed? " " = none ∧ trimmed? "project" = some "project" := by decide +kernel
    simp only [NameSource.order, List.findSome?_cons, hdirectory, Option.bind_some, htrimmed.2]
    simp only [nameIn?, hmanifest, hmaven, hsetup, Option.bind_some, hblank, htrimmed.1,
      Option.bind_none]
  · simp only [nameOf, hmanifest, Option.bind_some, hblank, Option.some_or, Option.getD_some]

end CodeDigest.Detection
