import Mathlib.Data.List.Chain
import CodeDigest.Java.Outline
import CodeDigest.Proofs.Java.Places

/-!
# The shape of syntax trees

An outline is read off a syntax tree, and takes a few things for granted that the grammar of Java
says of the children of a node: which ones there have to be, of which kinds there is one at most,
and which nodes are made of words.  `Kind.Allows` says them of a node, `Tree.Shaped` of all nodes of
a tree, and a `Parser` is whatever reads trees of this shape from texts.

So what is proved of every parser does not depend on the rest of the grammar.
-/

namespace CodeDigest.Java

/-! ## All nodes of a tree -/

/-- Every node of a tree passes a test of its kind and its children. -/
def Tree.Throughout (test : Kind → List Tree → Prop) (t : Tree) : Prop :=
  ∀ p k children, t.at? p = some (.node k children) → test k children

namespace Tree.Throughout

variable {test : Kind → List Tree → Prop} {t c : Tree} {k kind : Kind} {ts : List Tree} {q : Place}

lemma leaf (token : Token) : (Tree.leaf token).Throughout test := by
  rintro (_ | ⟨i, p⟩) k children hat
  · cases hat
  · simp [at?_cons, Tree.children] at hat

lemma node (hroot : test k ts) (hbelow : ∀ c ∈ ts, c.Throughout test) :
    (Tree.node k ts).Throughout test := by
  rintro (_ | ⟨i, p⟩) k' cs hat
  · cases hat
    exact hroot
  · obtain ⟨c, hc, hat⟩ := Option.bind_eq_some_iff.mp hat
    exact hbelow c (List.mem_of_getElem? hc) p k' cs hat

lemma root (h : (Tree.node k ts).Throughout test) : test k ts := h [] k ts rfl

lemma of_at? (h : t.Throughout test) (hat : t.at? q = some c) : c.Throughout test :=
  fun p k children hp => h (q ++ p) k children ((at?_append_of hat p).trans hp)

lemma of_mem_children (h : t.Throughout test) (hc : c ∈ t.children) : c.Throughout test := by
  obtain ⟨i, hi⟩ := List.getElem?_of_mem hc
  exact h.of_at? (q := [i]) (by rw [at?_cons, hi, Option.bind_some, at?_nil])

lemma of_child? (h : t.Throughout test) (hc : t.child? kind = some c) : c.Throughout test :=
  h.of_mem_children (List.mem_of_find?_eq_some hc)

end Tree.Throughout

/-! ## What the analysis relies on -/

/-- The kinds of children that a node cannot do without. -/
def Kind.required : Kind → List Kind
  | .methodDeclaration => [.typeName, .declaredName, .parameters]
  | .parameter => [.typeName, .declaredName]
  | .variadicParameter => [.typeName, .declarator]
  | .declarator => [.declaredName]
  | _ => []

/-- The kinds of children of which a node has one at most. -/
def Kind.single : Kind → List Kind
  | .classDeclaration => [.classBody]
  | .methodDeclaration => [.parameters, .block]
  | .constructorDeclaration => [.constructorBody]
  | _ => []

/-- Of two neighbours in a qualified name, one is a dot. -/
def OneDot (a b : Token) : Prop := a.text = "." ∨ b.text = "."

/-- What a node of a kind has for children, as far as the analysis relies on it. -/
structure Kind.Allows (kind : Kind) (children : List Tree) : Prop where
  required : ∀ k ∈ kind.required, ∃ c ∈ children, c.is k = true
  single : ∀ k ∈ kind.single, children.countP (Tree.is k) ≤ 1
  /-- A declared name is one word. -/
  declaredName : kind = .declaredName → ∃ token, children = [.leaf token]
  /-- A qualified name is made of words and of dots between them. -/
  name : kind = .name → ∃ tokens : List Token,
    children = tokens.map Tree.leaf ∧ tokens.IsChain OneDot
  /-- A label of a switch starts with a word of its own. -/
  switchLabel : kind = .switchLabel → ∃ token rest, children = .leaf token :: rest

/-- Every node of a tree has the children that its kind allows. -/
def Tree.Shaped (t : Tree) : Prop := t.Throughout Kind.Allows

namespace Tree.Shaped

variable {t : Tree} {k kind : Kind} {ts : List Tree}

/-- A node has the children that it cannot do without. -/
lemma exists_child? (h : t.Shaped) (hk : t.is k = true) (kind : Kind) (hkind : kind ∈ k.required) :
    ∃ c, t.child? kind = some c := by
  cases t with
  | leaf token => cases hk
  | node k' cs =>
      obtain rfl : k' = k := by simpa [is, kind?] using hk
      obtain ⟨c, hc, hckind⟩ := h.root.required kind hkind
      exact Option.isSome_iff_exists.mp (List.find?_isSome.mpr ⟨c, hc, hckind⟩)

/-- Where there is one child of a kind at most, the first one is the only one. -/
lemma childrenOf_eq_child? (h : t.Shaped) (hk : t.is k = true) (hkind : kind ∈ k.single) :
    t.childrenOf kind = (t.child? kind).toList := by
  cases t with
  | leaf token => rfl
  | node k' cs =>
      obtain rfl : k' = k := by simpa [is, kind?] using hk
      have hcount := h.root.single kind hkind
      rw [List.countP_eq_length_filter] at hcount
      rw [childrenOf, child?, children, ← List.head?_filter]
      rcases hfilter : cs.filter (is kind) with _ | ⟨c, _ | ⟨d, ds⟩⟩
      · rfl
      · rfl
      · simp [hfilter] at hcount

/-- A declared name is one word. -/
lemma exists_word (h : t.Shaped) (hk : t.is .declaredName = true) :
    ∃ token, t = .node .declaredName [.leaf token] := by
  cases t with
  | leaf token => cases hk
  | node k cs =>
      obtain rfl : k = .declaredName := by simpa [is, kind?] using hk
      obtain ⟨token, rfl⟩ := h.root.declaredName rfl
      exact ⟨token, rfl⟩

end Tree.Shaped

/-- What reads syntax trees from source texts. -/
structure Parser where
  tree? : String → Option Tree
  /-- The trees have the shape that the grammar of the language gives them. -/
  shaped {content : String} {t : Tree} (h : tree? content = some t) : t.Shaped

end CodeDigest.Java
