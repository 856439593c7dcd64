import CodeDigest.Narration.Question

/-!
# Recommendations

What a narrator recommends when it is told the figures of a code base and its technologies.
-/

namespace CodeDigest.Recommendation

/-- What the narrator is told. -/
def summary (s : Statistics) (technologies : List String) : String :=
  joined "\n"
    ["Project Statistics:",
     "- Files: " ++ toString s.totalFiles,
     "- Classes: " ++ toString s.totalClasses,
     "- Business Logic Methods: " ++ toString s.totalMethods,
     "- Total Lines: " ++ toString s.totalLines,
     "- Average File Size: " ++ toString s.averageFileSize ++ " lines",
     "",
     "Technology Stack: " ++ joined ", " technologies]

/-- The recommendations of a run. -/
def request {σ : Type} (narrator : Narrator σ) (s : Statistics) (technologies : List String) :
    StateM σ (List String) :=
  narrator (.recommendations (summary s technologies))

end CodeDigest.Recommendation
