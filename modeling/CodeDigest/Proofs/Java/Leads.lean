import Mathlib.Data.List.Forall2
import CodeDigest.Proofs.Java.Extraction

/-!
# Leads

What stands in front of a token is its lead, and `Tree.stripped` takes the leads out of a tree.  The
reader never looks at them (`read_stripped`), so a text whose tokens are those of another one but
for a lead has the same tree but for that lead (`exists_tree?_of_relaid`), unless the token goes on
with an operator.
-/

namespace CodeDigest.Java

/-- A token with nothing in front. -/
def Token.stripped (t : Token) : Token := { t with lead := [] }

@[simp] lemma Token.text_stripped (t : Token) : t.stripped.text = t.text := rfl

@[simp] lemma Token.class_stripped (t : Token) : t.stripped.class_ = t.class_ := rfl

@[simp] lemma Token.bare_stripped (t : Token) : t.stripped.bare = t.bare := rfl

namespace Tree

mutual

/-- A tree with nothing in front of its tokens. -/
def stripped : Tree → Tree
  | leaf token => leaf token.stripped
  | node kind children => node kind (strippedOfAll children)

/-- `stripped` over some trees. -/
def strippedOfAll : List Tree → List Tree
  | [] => []
  | t :: ts => t.stripped :: strippedOfAll ts

end

variable {t n : Tree} {ts : List Tree} {kind : Kind}

lemma strippedOfAll_eq (ts : List Tree) : strippedOfAll ts = ts.map stripped := by
  induction ts with
  | nil => rfl
  | cons t ts ih => rw [strippedOfAll, ih, List.map_cons]

@[simp] lemma stripped_leaf (token : Token) : (leaf token).stripped = leaf token.stripped := by
  rw [stripped]

@[simp] lemma stripped_node (kind : Kind) (children : List Tree) :
    (node kind children).stripped = node kind (children.map stripped) := by
  rw [stripped, strippedOfAll_eq]

@[simp] lemma kind?_stripped (t : Tree) : t.stripped.kind? = t.kind? := by
  cases t <;> simp [kind?]

@[simp] lemma is_stripped (kind : Kind) (t : Tree) : t.stripped.is kind = t.is kind := by
  simp [is]

@[simp] lemma children_stripped (t : Tree) : t.stripped.children = t.children.map stripped := by
  cases t <;> simp [children]

lemma tokensOfAll_eq (ts : List Tree) : tokensOfAll ts = ts.flatMap tokens := by
  induction ts with
  | nil => rfl
  | cons t ts ih => rw [tokensOfAll, ih, List.flatMap_cons]

lemma tokens_node (kind : Kind) (children : List Tree) :
    (node kind children).tokens = children.flatMap tokens := by
  rw [tokens, tokensOfAll_eq]

lemma tokens_stripped (t : Tree) : t.stripped.tokens = t.tokens.map Token.stripped := by
  induction t using Tree.induction with
  | _ t ih =>
      cases t with
      | leaf token => simp [tokens]
      | node kind cs =>
          rw [stripped_node, tokens_node, tokens_node, List.flatMap_map, List.map_flatMap]
          exact List.flatMap_congr fun c hc => ih c hc

end Tree

/-! ## Reading -/

/-- A reading with nothing in front of any token. -/
def Reading.stripped (s : Reading) : Reading :=
  ⟨s.done.map Tree.stripped, s.rest.map Token.stripped⟩

variable {grammar : Kind → Pattern} {fuel : Nat} {pattern : Pattern} {s s' : Reading}

lemma Reading.token_stripped {test : Token → Bool} (h : ∀ t : Token, test t.stripped = test t)
    (s : Reading) : s.stripped.token test = (s.token test).map Reading.stripped := by
  obtain ⟨done, _ | ⟨t, ts⟩⟩ := s
  · rfl
  · simp only [Reading.stripped, List.map_cons, Reading.token, h]
    split <;> simp [Reading.stripped]

lemma Reading.isBehind_stripped (kinds : List Kind) (s : Reading) :
    s.stripped.isBehind kinds = s.isBehind kinds := by
  obtain ⟨_ | ⟨_ | ⟨kind, children⟩, done⟩, rest⟩ := s <;>
    simp [Reading.stripped, Reading.isBehind]

/-- **The reader does not look at leads.** -/
theorem read_stripped (grammar : Kind → Pattern) (fuel : Nat) (pattern : Pattern) (s : Reading) :
    read grammar fuel pattern s.stripped = (read grammar fuel pattern s).map Reading.stripped := by
  induction fuel generalizing pattern s with
  | zero => rfl
  | succ fuel ih =>
      cases pattern with
      | nothing => rfl
      | symbol | keyword | word | literal => exact Reading.token_stripped (fun _ => rfl) s
      | behind kinds =>
          simp only [read, Reading.isBehind_stripped]
          split <;> rfl
      | both p q =>
          simp only [read, ih p]
          cases read grammar fuel p s with
          | none => rfl
          | some s => exact ih q s
      | either p q =>
          simp only [read, ih p]
          cases read grammar fuel p s with
          | none => exact ih q s
          | some s => rfl
      | many p =>
          simp only [read, ih p]
          cases read grammar fuel p s with
          | none => rfl
          | some s => exact ih (.many p) s
      | ahead p | absent p =>
          simp only [read, ih p, Option.isSome_map]
          split <;> rfl
      | part kind =>
          have hinner : (⟨[], s.stripped.rest⟩ : Reading) = Reading.stripped ⟨[], s.rest⟩ := rfl
          simp only [read, hinner, ih (grammar kind)]
          cases read grammar fuel (grammar kind) ⟨[], s.rest⟩ with
          | none => rfl
          | some inner => simp [Reading.stripped]

lemma tokens_of_token {test : Token → Bool} (h : s.token test = some s') :
    s'.done.reverse.flatMap Tree.tokens ++ s'.rest
      = s.done.reverse.flatMap Tree.tokens ++ s.rest := by
  obtain ⟨done, _ | ⟨t, ts⟩⟩ := s
  · cases h
  · simp only [Reading.token] at h
    split at h
    · cases h
      simp [Tree.tokens]
    · cases h

/-- What has been read are the tokens that are gone. -/
lemma tokens_read (h : read grammar fuel pattern s = some s') :
    s'.done.reverse.flatMap Tree.tokens ++ s'.rest
      = s.done.reverse.flatMap Tree.tokens ++ s.rest := by
  induction fuel generalizing pattern s s' with
  | zero => cases h
  | succ fuel ih =>
      cases pattern with
      | nothing => cases h; rfl
      | symbol | keyword | word | literal => exact tokens_of_token h
      | behind | ahead | absent =>
          simp only [read] at h
          split at h
          all_goals cases h
          all_goals rfl
      | both p q =>
          simp only [read] at h
          split at h
          next middle hfirst => exact (ih h).trans (ih hfirst)
          next => cases h
      | either p q =>
          simp only [read] at h
          split at h
          next found hfirst => exact Option.some.inj h ▸ ih hfirst
          next => exact ih h
      | many p =>
          simp only [read] at h
          split at h
          next middle hfirst => exact (ih h).trans (ih hfirst)
          next => cases h; rfl
      | part kind =>
          simp only [read] at h
          split at h
          next inner hinner =>
            have htokens := ih hinner
            cases h
            simpa [Tree.tokens_node] using htokens
          next => cases h

/-! ## Operators -/

namespace Tree

variable {t t' : Tree}

lemma continues_stripped (before : Option Token) (token : Token) :
    continues (before.map Token.stripped) token.stripped = continues before token := by
  cases before <;> rfl

/-- What goes on with an operator goes on with it without leads. -/
lemma parts_stripped (t : Tree) :
    t.stripped.parts = t.parts.map fun (token, goesOn) => (token.stripped, goesOn) := by
  induction t using Tree.induction with
  | _ t ih =>
      cases t with
      | leaf token => simp [parts]
      | node kind cs =>
          rw [stripped_node, parts, parts]
          rw [children] at ih
          suffices hall : ∀ before, partsOfAll (before.map Token.stripped) (cs.map stripped)
              = (partsOfAll before cs).map fun (token, goesOn) => (token.stripped, goesOn) from
            hall none
          induction cs with
          | nil => simp [partsOfAll]
          | cons c cs ihcs =>
              intro before
              have hrest := ihcs fun c hc => ih c (List.mem_cons_of_mem _ hc)
              cases c with
              | leaf token =>
                  simp only [List.map_cons, stripped_leaf, partsOfAll, continues_stripped,
                    ← hrest (some token), Option.map_some]
              | node k children =>
                  have hchild := ih (node k children) List.mem_cons_self
                  rw [stripped_node] at hchild
                  simp only [List.map_cons, stripped_node, partsOfAll, List.map_append, hchild,
                    ← hrest none, Option.map_none]

lemma map_fst_parts (t : Tree) : t.parts.map Prod.fst = t.tokens := by
  induction t using Tree.induction with
  | _ t ih =>
      cases t with
      | leaf token => simp [parts, tokens]
      | node kind cs =>
          rw [parts, tokens_node]
          rw [children] at ih
          suffices hall : ∀ before, (partsOfAll before cs).map Prod.fst = cs.flatMap tokens from
            hall none
          induction cs with
          | nil => simp [partsOfAll]
          | cons c cs ihcs =>
              intro before
              have hrest := ihcs fun c hc => ih c (List.mem_cons_of_mem _ hc)
              cases c with
              | leaf token => simp [partsOfAll, hrest, tokens]
              | node k children => simp [partsOfAll, hrest, ih (node k children)]

end Tree

variable {content content' : String} {t t' : Tree} {token : Token} {tokens tokens' : List Token}
  {before after : List (Token × Bool)} {lead : List Char}

/-- Which tokens go on with an operator does not change with a lead. -/
lemma Tree.parts_of_relaid (hparts : t.parts = before ++ (token, false) :: after)
    (hstripped : t'.stripped = t.stripped)
    (htokens : t'.tokens = before.map Prod.fst ++ { token with lead } :: after.map Prod.fst) :
    t'.parts = before ++ ({ token with lead }, false) :: after := by
  have hflags : t'.parts.map Prod.snd = t.parts.map Prod.snd := by
    have hparts' := congrArg (List.map Prod.snd) (congrArg Tree.parts hstripped)
    rw [Tree.parts_stripped, Tree.parts_stripped, List.map_map, List.map_map] at hparts'
    exact hparts'
  rw [hparts] at hflags
  refine (List.zip_of_prod ((Tree.map_fst_parts t').trans htokens) hflags).trans
    (List.zip_of_prod ?_ ?_).symm <;> simp

/-- A reader of syntax trees that goes by the tokens of a text. -/
structure TokenParser where
  read : List Token → Option Tree
  shaped {tokens : List Token} {t : Tree} (h : read tokens = some t) : t.Shaped
  /-- The tokens of the tree are those of the text. -/
  tokens_eq {tokens : List Token} {t : Tree} (h : read tokens = some t) : t.tokens = tokens
  /-- What stands in front of the tokens is not looked at. -/
  stripped (tokens : List Token) :
    read (tokens.map Token.stripped) = (read tokens).map Tree.stripped

namespace TokenParser

variable (parser : TokenParser)

/-- The tree of a text, when nothing stands between the tokens of an operator. -/
def tree? (content : String) : Option Tree :=
  ((tokenize? content).bind parser.read).filter Tree.isJoined

variable {parser}

lemma tree?_eq_some_iff : parser.tree? content = some t ↔
    ∃ tokens, tokenize? content = some tokens ∧ parser.read tokens = some t ∧
      t.isJoined = true := by
  simp only [tree?, Option.filter_eq_some_iff, Option.bind_eq_some_iff]
  constructor
  · rintro ⟨⟨tokens, htokens, hread⟩, hjoined⟩
    exact ⟨tokens, htokens, hread, hjoined⟩
  · rintro ⟨tokens, htokens, hread, hjoined⟩
    exact ⟨⟨tokens, htokens, hread⟩, hjoined⟩

/-- A tree has the tokens of its text. -/
lemma tokenize?_of_tree? (h : parser.tree? content = some t) :
    tokenize? content = some t.tokens := by
  obtain ⟨tokens, htokens, hread, -⟩ := tree?_eq_some_iff.mp h
  rw [htokens, parser.tokens_eq hread]

lemma shaped_of_tree? (h : parser.tree? content = some t) : t.Shaped := by
  obtain ⟨tokens, -, hread, -⟩ := tree?_eq_some_iff.mp h
  exact parser.shaped hread

/-- Tokens that differ in their leads are read as trees that differ in their leads. -/
lemma exists_read_of_stripped (h : parser.read tokens = some t)
    (hsame : tokens'.map Token.stripped = tokens.map Token.stripped) :
    ∃ t', parser.read tokens' = some t' ∧ t'.stripped = t.stripped := by
  have hread := parser.stripped tokens'
  rw [hsame, parser.stripped, h, Option.map_some, eq_comm] at hread
  exact Option.map_eq_some_iff.mp hread

/-- **Another lead in the tree.**  The tokens of two texts are the same but for a lead, in front of
a token that does not go on with an operator. -/
theorem exists_tree?_of_relaid (h : parser.tree? content = some t)
    (hparts : t.parts = before ++ (token, false) :: after)
    (htokens : tokenize? content'
      = some (before.map Prod.fst ++ { token with lead } :: after.map Prod.fst)) :
    ∃ t', parser.tree? content' = some t' ∧ t'.stripped = t.stripped ∧
      t'.tokens = before.map Prod.fst ++ { token with lead } :: after.map Prod.fst := by
  obtain ⟨tokens, -, hread, hjoined⟩ := tree?_eq_some_iff.mp h
  obtain rfl : t.tokens = tokens := parser.tokens_eq hread
  have hsame : (before.map Prod.fst ++ { token with lead } :: after.map Prod.fst).map
      Token.stripped = t.tokens.map Token.stripped := by
    rw [← Tree.map_fst_parts, hparts]
    simp [Token.stripped]
  obtain ⟨t', hread', hstripped⟩ := exists_read_of_stripped hread hsame
  have htokens' := parser.tokens_eq hread'
  refine ⟨t', tree?_eq_some_iff.mpr ⟨_, htokens, hread', ?_⟩, hstripped, htokens'⟩
  rw [Tree.isJoined, hparts] at hjoined
  rw [Tree.isJoined, Tree.parts_of_relaid hparts hstripped htokens']
  simpa using hjoined

/-! ## The reader of the grammar -/

lemma read?_stripped (kind : Kind) (tokens : List Token) :
    read? grammar kind (tokens.map Token.stripped)
      = (read? grammar kind tokens).map Tree.stripped := by
  have hreading : (⟨[], tokens.map Token.stripped⟩ : Reading) = Reading.stripped ⟨[], tokens⟩ := rfl
  rw [read?, read?, List.length_map, hreading, read_stripped]
  rcases Java.read grammar (fuelPerToken * (tokens.length + 1)) (.part kind) ⟨[], tokens⟩ with
    _ | ⟨_ | ⟨tree, _ | ⟨more, done⟩⟩, _ | ⟨next, rest⟩⟩ <;> rfl

/-- The reader of the grammar as a parser of tokens. -/
def standard : TokenParser where
  read := read? Grammar.rule .compilationUnit
  shaped h := (grown_of_read? h).shaped
  tokens_eq h := by simpa using tokens_read (read?_eq_some_iff.mp h)
  stripped := read?_stripped .compilationUnit

lemma tree?_standard : standard.tree? = Java.tree? := funext fun _ => rfl

end TokenParser

end CodeDigest.Java
