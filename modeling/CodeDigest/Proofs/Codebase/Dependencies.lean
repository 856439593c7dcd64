import Mathlib.Data.List.Basic
import CodeDigest.Proofs.CommandLine.Project
import CodeDigest.Proofs.Text.Searching
import CodeDigest.Proofs.Text.Trimming

/-!
# The dependencies of a Maven project

A Maven build file is not read as XML.  What counts are the texts between an opening tag and the
nearest closing tag on the same line, each looked for behind the one before it.

* `Matches` says this of any text, well-formed or not: every text has its tagged texts in exactly
  one way (`matches_taggedTexts`, `Matches.unique`).  It matters that an opening tag cannot overlap
  another one (`StartsOnce`), since the search goes on right behind an opening tag that has no
  closing tag on its line.
* `FirstOccurrences` is a list without repetitions, in the order of the original.
* What is written behind a text adds to its tagged texts, at the end (`taggedTexts_append`), so it
  never changes the dependencies that are there already (`dependencies_append`).

`mavenDependencies?_of_text` puts this together.
-/

namespace CodeDigest.Detection

variable {opening closing cs before rest front inner behind : List Char}
  {inners : List (List Char)}

/-! ## Tagged texts -/

/-- A text between an opening tag and the nearest closing tag behind it, all on one line, with what
stands in front of the one and behind the other. -/
structure Tagged (opening closing cs before inner behind : List Char) : Prop where
  eq : cs = before ++ (opening ++ (inner ++ (closing ++ behind)))
  nearest : ∀ front, front ++ closing <+: inner ++ (closing ++ behind) →
    inner.length ≤ front.length
  line : '\n' ∉ inner

/-- The tagged texts of a text, one after another: each is the first one in what the one before it
has left over. -/
inductive Matches (opening closing : List Char) : List Char → List (List Char) → Prop
  | none {cs : List Char}
      (h : ∀ before inner behind, ¬Tagged opening closing cs before inner behind) :
      Matches opening closing cs []
  | next {cs before inner behind : List Char} {inners : List (List Char)}
      (h : Tagged opening closing cs before inner behind)
      (first : ∀ before' inner' behind', Tagged opening closing cs before' inner' behind' →
        before.length ≤ before'.length)
      (more : Matches opening closing behind inners) : Matches opening closing cs (inner :: inners)

/-- A tag that starts with a character it does not have again: two of them never overlap. -/
def StartsOnce (tag : List Char) : Prop := ∃ c cs, tag = c :: cs ∧ c ∉ cs

lemma Tagged.cut_closing (h : Tagged opening closing cs before inner behind) :
    Text.cut? closing (inner ++ (closing ++ behind)) = some (inner, behind) :=
  Text.cut?_eq_some_iff.mpr ⟨rfl, h.nearest⟩

/-- A tagged text begins at the first opening tag, or lies behind it. -/
lemma Tagged.cases (hopening : StartsOnce opening)
    (hcut : Text.cut? opening cs = some (before, rest))
    (h : Tagged opening closing cs front inner behind) :
    front = before ∧ rest = inner ++ (closing ++ behind) ∨
      ∃ between, front = before ++ (opening ++ between) ∧
        Tagged opening closing rest between inner behind := by
  obtain ⟨c, cs', rfl, hc⟩ := hopening
  obtain ⟨hcs, hfirst⟩ := Text.cut?_eq_some_iff.mp hcut
  have hle := hfirst front ⟨inner ++ (closing ++ behind), by simp [h.eq]⟩
  obtain ⟨a, rfl⟩ : ∃ a, front = before ++ a := by
    have hprefix : before <+: front := by
      refine List.prefix_of_prefix_length_le ⟨_, hcs.symm⟩ ⟨_, h.eq.symm⟩ hle
    exact ⟨_, hprefix.choose_spec.symm⟩
  have hrest : c :: (cs' ++ rest) = a ++ (c :: (cs' ++ (inner ++ (closing ++ behind)))) := by
    have := hcs.symm.trans h.eq
    simpa [List.append_assoc] using this
  rcases a with _ | ⟨d, a⟩
  · left
    simpa using hrest
  · right
    obtain ⟨rfl, htail⟩ := List.cons.inj hrest
    rcases List.append_eq_append_iff.mp htail with ⟨b, rfl, hb⟩ | ⟨b, hb, hb'⟩
    · exact ⟨b, by simp, ⟨by simpa using hb, h.nearest, h.line⟩⟩
    · rcases b with _ | ⟨d, b⟩
      · refine ⟨[], by simp [hb], ⟨by simpa using hb'.symm, h.nearest, h.line⟩⟩
      · obtain ⟨rfl, -⟩ := List.cons.inj hb'
        exact absurd (by simp [hb]) hc

/-- A tagged text behind the first opening tag is one of the whole text. -/
lemma Tagged.of_rest (hcut : Text.cut? opening cs = some (before, rest))
    (h : Tagged opening closing rest front inner behind) :
    Tagged opening closing cs (before ++ (opening ++ front)) inner behind where
  eq := by rw [(Text.cut?_eq_some_iff.mp hcut).1, h.eq]; simp
  nearest := h.nearest
  line := h.line

/-- The first opening tag has a tagged text behind it if the nearest closing tag is on its line. -/
lemma tagged_of_cut (hopening : Text.cut? opening cs = some (before, rest))
    (hclosing : Text.cut? closing rest = some (inner, behind)) (hline : '\n' ∉ inner) :
    Tagged opening closing cs before inner behind := by
  obtain ⟨hcs, -⟩ := Text.cut?_eq_some_iff.mp hopening
  obtain ⟨hrest, hnearest⟩ := Text.cut?_eq_some_iff.mp hclosing
  exact ⟨by rw [hcs, hrest], hrest ▸ hnearest, hline⟩

/-- Where the first opening tag has no tagged text, the tagged texts are those behind it. -/
lemma Matches.of_rest (hopening : StartsOnce opening)
    (hcut : Text.cut? opening cs = some (before, rest))
    (hnone : ∀ inner behind, ¬Tagged opening closing cs before inner behind)
    (h : Matches opening closing rest inners) : Matches opening closing cs inners := by
  have hbehind : ∀ {front inner behind}, Tagged opening closing cs front inner behind →
      ∃ between, front = before ++ (opening ++ between) ∧
        Tagged opening closing rest between inner behind := by
    intro front inner behind htagged
    refine (htagged.cases hopening hcut).resolve_left ?_
    rintro ⟨rfl, -⟩
    exact hnone _ _ htagged
  cases h with
  | none hrest =>
      refine .none fun front inner behind htagged => ?_
      obtain ⟨between, -, hbetween⟩ := hbehind htagged
      exact hrest _ _ _ hbetween
  | next htagged hfirst more =>
      refine .next (htagged.of_rest hcut) (fun front inner behind hother => ?_) more
      obtain ⟨between, rfl, hbetween⟩ := hbehind hother
      have hle := hfirst _ _ _ hbetween
      simp only [List.length_append]
      omega

/-- The tagged texts that are collected are those of the text. -/
lemma matches_taggedTexts (hopening : StartsOnce opening) {count : Nat} (h : cs.length ≤ count) :
    Matches opening closing cs (taggedTexts opening closing count cs) := by
  induction count generalizing cs with
  | zero =>
      obtain ⟨c, tag, rfl, -⟩ := hopening
      obtain rfl : cs = [] := List.length_eq_zero_iff.mp (Nat.le_zero.mp h)
      exact .none fun before inner behind htagged => by simpa using htagged.eq
  | succ count ih =>
      rw [taggedTexts]
      split
      next hnone =>
        refine .none fun before inner behind htagged => ?_
        exact Text.cut?_eq_none_iff.mp hnone
          ⟨before, inner ++ (closing ++ behind), by simp [htagged.eq]⟩
      next before rest hcut =>
        have hcs := (Text.cut?_eq_some_iff.mp hcut).1
        have hlength : rest.length ≤ count := by
          obtain ⟨c, tag, rfl, -⟩ := hopening
          simp only [hcs, List.length_append, List.length_cons] at h
          omega
        split
        next hnone =>
          -- no closing tag is left, for this opening tag or a later one
          refine .none fun front inner behind htagged => Text.cut?_eq_none_iff.mp hnone ?_
          rcases htagged.cases hopening hcut with ⟨-, hrest⟩ | ⟨between, -, hbetween⟩
          · exact ⟨inner, behind, by simp [hrest]⟩
          · exact ⟨between ++ opening ++ inner, behind, by simp [hbetween.eq]⟩
        next inner behind hclosing =>
          split_ifs with hline
          · refine (ih hlength).of_rest hopening hcut fun inner' behind' htagged => ?_
            obtain ⟨-, hrest⟩ | ⟨between, heq, -⟩ := htagged.cases hopening hcut
            · rw [hrest, htagged.cut_closing] at hclosing
              cases hclosing
              exact htagged.line (by simpa using hline)
            · obtain ⟨c, tag, rfl, -⟩ := hopening
              simp at heq
          · have htagged := tagged_of_cut hcut hclosing (by simpa using hline)
            refine .next htagged (fun front inner' behind' hother => ?_) (ih ?_)
            · exact (Text.cut?_eq_some_iff.mp hcut).2 front
                ⟨inner' ++ (closing ++ behind'), by simp [hother.eq]⟩
            · have hrest := (Text.cut?_eq_some_iff.mp hclosing).1
              simp only [hrest, List.length_append] at hlength
              omega

/-- A text has its tagged texts in one way. -/
lemma Matches.unique {inners' : List (List Char)} (h : Matches opening closing cs inners)
    (h' : Matches opening closing cs inners') : inners' = inners := by
  induction h generalizing inners' with
  | none hnone =>
      cases h' with
      | none => rfl
      | next htagged => exact absurd htagged (hnone _ _ _)
  | next htagged hfirst _ ih =>
      cases h' with
      | none hnone => exact absurd htagged (hnone _ _ _)
      | next htagged' hfirst' more' =>
          have hlength := Nat.le_antisymm (hfirst' _ _ _ htagged) (hfirst _ _ _ htagged')
          obtain ⟨-, hrest⟩ := List.append_inj (htagged'.eq.symm.trans htagged.eq) hlength
          have hcut := htagged'.cut_closing
          rw [List.append_cancel_left hrest, htagged.cut_closing] at hcut
          cases hcut
          rw [ih more']

/-- What follows a text adds tagged texts behind those it has. -/
lemma taggedTexts_append (count extra : Nat) (cs more : List Char) :
    taggedTexts opening closing count cs
      <+: taggedTexts opening closing (count + extra) (cs ++ more) := by
  induction count generalizing cs with
  | zero => exact List.nil_prefix
  | succ count ih =>
      rw [Nat.succ_add, taggedTexts, taggedTexts]
      split
      next => exact List.nil_prefix
      next before rest hcut =>
        rw [Text.cut?_append hcut more]
        split
        next => exact List.nil_prefix
        next inner behind hclosing =>
          simp only [Text.cut?_append hclosing more]
          split_ifs
          · exact ih rest
          · exact List.cons_prefix_cons.mpr ⟨rfl, ih behind⟩

/-! ## Each member once -/

/-- The members of a list, each once, in the order in which they first occur. -/
structure FirstOccurrences (items distinct : List String) : Prop where
  mem_iff : ∀ s, s ∈ distinct ↔ s ∈ items
  ordered : distinct.Pairwise fun s s' => items.idxOf s < items.idxOf s'

lemma FirstOccurrences.nodup {items distinct : List String} (h : FirstOccurrences items distinct) :
    distinct.Nodup :=
  h.ordered.imp fun hlt heq => by
    rw [heq] at hlt
    exact Nat.lt_irrefl _ hlt

lemma firstOccurrences_eraseDups (items : List String) :
    FirstOccurrences items items.eraseDups := by
  refine ⟨fun s => List.mem_eraseDups, ?_⟩
  induction items using List.reverseRecOn with
  | nil => exact .nil
  | append_singleton items s ih =>
      have hold : items.eraseDups.Pairwise fun u v =>
          (items ++ [s]).idxOf u < (items ++ [s]).idxOf v := by
        refine ih.imp_of_mem fun hu hv hlt => ?_
        rwa [List.idxOf_append_of_mem (List.mem_eraseDups.mp hu),
          List.idxOf_append_of_mem (List.mem_eraseDups.mp hv)]
      rw [List.eraseDups_append]
      by_cases hs : s ∈ items
      · have hnothing : ([s].removeAll items).eraseDups = [] := by simp [List.removeAll, hs]
        rwa [hnothing, List.append_nil]
      · have hs' : ([s].removeAll items).eraseDups = [s] := by
          simp [List.removeAll, hs, List.eraseDups_cons]
        rw [hs', List.pairwise_append]
        refine ⟨hold, List.pairwise_singleton _ s, fun u hu v hv => ?_⟩
        obtain rfl := List.mem_singleton.mp hv
        have hmem := List.mem_eraseDups.mp hu
        have hlt : items.idxOf u < items.length := List.idxOf_lt_length_iff.mpr hmem
        rw [List.idxOf_append_of_mem hmem, List.idxOf_append_of_notMem hs]
        omega

/-- What follows a list adds members behind those it has. -/
lemma eraseDups_mono {items items' : List String} (h : items <+: items') :
    items.eraseDups <+: items'.eraseDups := by
  obtain ⟨more, rfl⟩ := h
  rw [List.eraseDups_append]
  exact List.prefix_append _ _

/-! ## Files right in a project -/

/-- The files that are read for a name or for dependencies. -/
def namingFiles : List String := ["package.json", "pom.xml", "setup.py"]

variable {es : List (String × Node)} {name : String}

/-- Their paths lead right into the project. -/
lemma namingFiles_paths (h : name ∈ namingFiles) :
    FileTree.Usable (Path.join "." name) ∧ pieces '/' (Path.join "." name) = [".", name] ∧
      Path.isAbsolute (Path.join "." name) = false ∧ FileTree.IsEntryName name := by
  simp only [namingFiles, List.mem_cons, List.not_mem_nil, or_false] at h
  rcases h with rfl | rfl | rfl
  all_goals
    exact ⟨⟨by decide, by decide, by decide⟩, by decide, by decide,
      ⟨by decide, by decide, by decide, by decide⟩⟩

lemma readAt?_project (hname : name ∈ namingFiles) {text : String}
    (h : es.lookup name = some (.file text.toUTF8)) :
    readAt? (FileTree.project es) "." name = some text := by
  obtain ⟨husable, hpieces, hrelative, hentry⟩ := namingFiles_paths hname
  exact FileTree.readText?_project husable hpieces hrelative hentry h

lemma readAt?_project_missing (hname : name ∈ namingFiles) (h : es.lookup name = none) :
    readAt? (FileTree.project es) "." name = none := by
  obtain ⟨husable, hpieces, hrelative, hentry⟩ := namingFiles_paths hname
  exact FileTree.readText?_project_missing husable hpieces hrelative hentry h

/-! ## Artifacts -/

/-- The names in tagged texts: trimmed, and those of which nothing is left are passed over. -/
def namesIn (found : List (List Char)) : List String :=
  found.filterMap fun inner => trimmed? (String.ofList inner)

lemma startsOnce_artifactTag : StartsOnce artifactTags.1 :=
  ⟨'<', "artifactId>".toList, rfl, by decide⟩

/-- The tagged texts of a Maven build file. -/
def artifactTexts (text : String) : List (List Char) :=
  taggedTexts artifactTags.1 artifactTags.2 text.length text.toList

lemma matches_artifactTexts (text : String) :
    Matches artifactTags.1 artifactTags.2 text.toList (artifactTexts text) :=
  matches_taggedTexts startsOnce_artifactTag (by rw [String.length_toList])

lemma dependencies_eq (text : String) :
    dependencies text = (namesIn (artifactTexts text)).eraseDups.take dependencyLimit := by
  rw [dependencies, artifacts, List.filterMap_map, namesIn, artifactTexts, Function.comp_def]

/-- What is written behind a text does not touch its dependencies. -/
lemma dependencies_append (text more : String) :
    dependencies text <+: dependencies (text ++ more) := by
  have hfound : artifactTexts text <+: artifactTexts (text ++ more) := by
    unfold artifactTexts
    rw [String.length_append, String.toList_append]
    exact taggedTexts_append text.length more.length text.toList more.toList
  rw [dependencies_eq, dependencies_eq]
  exact (eraseDups_mono (hfound.filterMap _)).take dependencyLimit

lemma told_of_mem_namesIn {found : List (List Char)} {s : String} (h : s ∈ namesIn found) :
    Told s := by
  obtain ⟨inner, -, hinner⟩ := List.mem_filterMap.mp h
  exact told_of_trimmed? hinner

/-- A Maven build file that can be read has dependencies: the first twenty of the names that its
text has between the tags, each once, in the order in which they first occur.  They are all there
when there are no more than twenty, and once there are twenty no text behind them matters. -/
theorem mavenDependencies?_of_text {t : FileTree} {root text : String}
    (h : readAt? t root "pom.xml" = some text) : ∃ found distinct deps,
      Matches "<artifactId>".toList "</artifactId>".toList text.toList found ∧
      (∀ found', Matches "<artifactId>".toList "</artifactId>".toList text.toList found' →
        found' = found) ∧
      FirstOccurrences (namesIn found) distinct ∧
      mavenDependencies? t root = some deps ∧ deps = distinct.take 20 ∧
      deps.Nodup ∧ (∀ d ∈ deps, Told d) ∧ deps.length ≤ 20 ∧
      (distinct.length ≤ 20 → ∀ name ∈ namesIn found, name ∈ deps) ∧
      ∀ (t' : FileTree) (root' more : String), 20 ≤ distinct.length →
        readAt? t' root' "pom.xml" = some (text ++ more) →
        mavenDependencies? t' root' = some deps := by
  have hmatches := matches_artifactTexts text
  have hfirst := firstOccurrences_eraseDups (namesIn (artifactTexts text))
  refine ⟨artifactTexts text, (namesIn (artifactTexts text)).eraseDups, dependencies text,
    hmatches, fun _ h' => hmatches.unique h', hfirst, ?_, dependencies_eq text, ?_⟩
  · rw [mavenDependencies?, h, Option.map_some]
  rw [dependencies_eq]
  refine ⟨hfirst.nodup.sublist (List.take_sublist _ _), fun d hd => ?_, List.length_take_le _ _,
    fun hshort name hname => ?_, fun t' root' more hmany h' => ?_⟩
  · exact told_of_mem_namesIn ((hfirst.mem_iff d).mp (List.mem_of_mem_take hd))
  · rw [dependencyLimit, List.take_of_length_le hshort]
    exact (hfirst.mem_iff name).mpr hname
  · have hprefix := dependencies_append text more
    have hlength : (dependencies (text ++ more)).length ≤ (dependencies text).length := by
      rw [dependencies_eq, dependencies_eq, List.length_take, List.length_take]
      exact (Nat.min_le_left _ _).trans (Nat.le_min.mpr ⟨le_rfl, hmany⟩)
    rw [mavenDependencies?, h', Option.map_some, ← hprefix.eq_of_length_le hlength, dependencies_eq]

/-- A build file with a name twice, a padded one, a blank one, and a tag that is not closed on its
line. -/
def rentalPom : String :=
  "<artifactId>rental</artifactId>\n<artifactId> web\t</artifactId><artifactId> </artifactId>\n"
    ++ "<artifactId>\n<artifactId>data</artifactId><artifactId>web</artifactId>"

/-- The dependencies of a project with this build file. -/
theorem mavenDependencies?_rentalPom :
    let t := FileTree.project [("pom.xml", .file rentalPom.toUTF8)]
    readAt? t "." "pom.xml" = some rentalPom ∧ ∃ found,
      Matches "<artifactId>".toList "</artifactId>".toList rentalPom.toList found ∧
      FirstOccurrences (namesIn found) ["rental", "web", "data"] ∧
      mavenDependencies? t "." = some ["rental", "web", "data"] := by
  have hread : readAt? (FileTree.project [("pom.xml", .file rentalPom.toUTF8)]) "." "pom.xml"
      = some rentalPom := readAt?_project (by decide) List.lookup_cons_self
  have hevaluated : dependencies rentalPom = ["rental", "web", "data"] := by decide +kernel
  obtain ⟨found, distinct, deps, hmatches, -, hfirst, hdeps, htake, -⟩ :=
    mavenDependencies?_of_text hread
  obtain rfl : deps = ["rental", "web", "data"] := by
    rw [mavenDependencies?, hread, Option.map_some, hevaluated] at hdeps
    exact (Option.some.inj hdeps).symm
  obtain rfl : distinct = ["rental", "web", "data"] := by
    have hlength := congrArg List.length htake
    rw [List.length_take] at hlength
    rw [htake, List.take_of_length_le]
    simp only [List.length_cons, List.length_nil] at hlength
    omega
  exact ⟨hread, found, hmatches, hfirst, hdeps⟩

end CodeDigest.Detection
