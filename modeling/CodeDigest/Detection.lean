import CodeDigest.Failure
import CodeDigest.FileTree.Walk
import CodeDigest.Json.Reader
import CodeDigest.Project

/-!
# Detection

What the files of a project say about it.  A build file anywhere below the root decides the
language, in a fixed order of build files; where there is none, the language with the most source
files wins, and of several with as many the first one in the list of languages.  Frameworks, the
project's name and its dependencies are read from build files right at the root.
-/

namespace CodeDigest.Detection

/-! ## The language -/

/-- The build files that decide the language, those that count more in front. -/
def indicators : List (String × Language) :=
  [("pom.xml", .java), ("build.gradle", .java), ("package.json", .javascript),
   ("requirements.txt", .python), ("setup.py", .python), ("pyproject.toml", .python),
   ("go.mod", .go), ("Gemfile", .ruby), ("composer.json", .php), ("Cargo.toml", .rust)]

/-- The directories that are not looked into. -/
def skippedDirectories : List String :=
  ["node_modules", "venv", "env", "target", "build", "dist", ".git", "__pycache__", "vendor"]

/-- Whether an entry is looked at. -/
def admitsEntry (names : List String) (isDirectory : Bool) : Bool :=
  !(isDirectory && names.getLast?.any skippedDirectories.contains)

/-- The names of the files below a path. -/
def fileNames (t : FileTree) (root : String) : List String :=
  (t.filesUnder admitsEntry root).filterMap (·.names.getLast?)

/-- The language that a build file among some files decides. -/
def indicated? (names : List String) : Option Language :=
  (indicators.find? fun (name, _) => names.contains name).map (·.2)

/-- The number of source files in a language. -/
def countOf (names : List String) (l : Language) : Nat := names.countP (Language.ofPath · = l)

/-- The later language if it has more source files. -/
def moreFrequent (names : List String) (best : Option Language) (l : Language) :
    Option Language :=
  if (best.map (countOf names)).getD 0 < countOf names l then some l else best

/-- The language with the most source files. -/
def mostFrequent? (names : List String) : Option Language :=
  Language.known.foldl (moreFrequent names) none

/-- The language of a project by the names of its files. -/
def languageOfNames (names : List String) : Language :=
  match indicated? names with
  | some l => l
  | none => (mostFrequent? names).getD .unknown

/-- The language of a project. -/
def detectLanguage (t : FileTree) (root : String) : Language := languageOfNames (fileNames t root)

/-! ## Build files -/

/-- The build files of a language, the first of which counts. -/
def buildFileNames : Language → List String
  | .java => ["pom.xml", "build.gradle"]
  | .python => ["requirements.txt", "pyproject.toml", "setup.py"]
  | .javascript => ["package.json"]
  | .go => ["go.mod"]
  | .ruby => ["Gemfile"]
  | .php => ["composer.json"]
  | .rust => ["Cargo.toml"]
  | _ => []

/-- The path of the build file. -/
def buildFile? (t : FileTree) (root : String) (l : Language) : Option String :=
  ((buildFileNames l).map (Path.join root)).find? t.isFile

/-- The text of a file right at the root. -/
def readAt? (t : FileTree) (root name : String) : Option String := t.readText? (Path.join root name)

/-! ## Technologies -/

/-- The frameworks that a text mentions, letter case aside. -/
def mentioned (table : List (String × String)) (text : String) : List String :=
  let lower := lowercased text
  (table.filter fun (needle, _) => occursIn needle lower).map (·.2)

/-- The build files that are read for frameworks, each with the words to look for and the package
manager it stands for. -/
def technologyFiles : List (String × List (String × String) × Option String) :=
  [("pom.xml", [("spring-boot", "Spring Boot")], none),
   ("package.json",
    [("react", "React"), ("vue", "Vue"), ("angular", "Angular"), ("express", "Express"),
     ("next", "Next.js")],
    some "npm/yarn"),
   ("requirements.txt", [("django", "Django"), ("flask", "Flask"), ("fastapi", "FastAPI")],
    some "pip"),
   ("go.mod", [], some "go modules"),
   ("Gemfile", [("rails", "Ruby on Rails")], some "Bundler")]

/-- Whether a file of the table is there: a module file only has to exist, the others are read. -/
def isPresent (t : FileTree) (root name : String) : Bool :=
  if name == "go.mod" then t.pathExists (Path.join root name) else (readAt? t root name).isSome

/-- The technologies of a project; its language is left open. -/
def technologies (t : FileTree) (root : String) : ProjectContext :=
  let present := technologyFiles.filter fun (name, _) => isPresent t root name
  { language := ""
    frameworks :=
      present.flatMap fun (name, table, _) => mentioned table ((readAt? t root name).getD "")
    buildTools :=
      (if (readAt? t root "pom.xml").isSome then ["Maven"] else [])
        ++ (if t.pathExists (Path.join root "build.gradle") then ["Gradle"] else [])
    packageManager := (present.filterMap fun (_, _, manager) => manager).getLast? }

/-! ## Names and dependencies -/

/-- The opening and the closing tag of an artifact's name. -/
def artifactTags : List Char × List Char :=
  ("<artifactId>".toList, "</artifactId>".toList)

/-- The texts between two tags on one line; each ends at the nearest closing tag, and `count` bounds
their number. -/
def taggedTexts (opening closing : List Char) : (count : Nat) → List Char → List (List Char)
  | 0, _ => []
  | count + 1, cs =>
    match Text.cut? opening cs with
    | none => []
    | some (_, rest) =>
      match Text.cut? closing rest with
      | none => []
      | some (inner, behind) =>
        if inner.contains '\n' then taggedTexts opening closing count rest
        else inner :: taggedTexts opening closing count behind

/-- The artifact names in the text of a Maven build file. -/
def artifacts (text : String) : List String :=
  (taggedTexts artifactTags.1 artifactTags.2 text.length text.toList).map String.ofList

/-- The most dependencies that are kept. -/
def dependencyLimit : Nat := 20

/-- The dependencies in the text of a Maven build file: artifact names, each once. -/
def dependencies (text : String) : List String :=
  (((artifacts text).filterMap trimmed?).eraseDups).take dependencyLimit

/-- The dependencies of a Maven project. -/
def mavenDependencies? (t : FileTree) (root : String) : Option (List String) :=
  (readAt? t root "pom.xml").map dependencies

/-- The name in a package manifest. -/
def manifestName? (text : String) : Option String :=
  (Json.ofString? text).bind fun v => (v.get? "name").bind Json.string?

/-- A quotation mark. -/
def isQuote (c : Char) : Bool := c == '"' || c == '\''

/-- The first text between quotation marks behind `name=`. -/
def quotedName? : List Char → Option String
  | [] => none
  | c :: rest =>
    match Text.dropPrefix? "name=".toList (c :: rest) with
    | some (q :: inner) =>
      match isQuote q, inner.span (!isQuote ·) with
      | true, (name@(_ :: _), _ :: _) => some (String.ofList name)
      | _, _ => quotedName? rest
    | _ => quotedName? rest

/-- The name of a project: from its package manifest, its Maven build file, its setup script, or the
directory it is in. -/
def nameOf (t : FileTree) (root : String) : String :=
  let named :=
    ((readAt? t root "package.json").bind manifestName?).or
      (((readAt? t root "pom.xml").bind fun text => (artifacts text).head?).or
        ((readAt? t root "setup.py").bind fun text => quotedName? text.toList))
  named.getD (((t.canonical? root).bind List.getLast?).getD root)

/-! ## All of it -/

/-- Detects what can be known of a project; a language that is given is not looked for. -/
def detect (t : FileTree) (root : String) (given : Option Language) : Except Failure Detection :=
  if t.isDirectory root then
    let l := given.getD (detectLanguage t root)
    .ok
      { language := l
        context := { technologies t root with language := l.tag }
        projectName := nameOf t root
        pomDependencies := if l = .java then mavenDependencies? t root else none
        buildFile := buildFile? t root l }
  else .error (.input (.noCodebase root))

end CodeDigest.Detection
