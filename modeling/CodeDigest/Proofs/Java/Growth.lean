import CodeDigest.Proofs.Java.Shape

/-!
# What the grammar makes of a text

`Reads` says what a pattern can bring forth side by side, whatever else there is to read, and the
reader brings forth nothing else (`reads_of_read`), at any node of a parsed tree (`grown_of_tree?`).
A pattern has at most so many nodes of a kind in it (`Pattern.most?`), and there are kinds of which
it cannot do without a node (`Pattern.brings`).  With these two the grammar gives its trees the
shape that the analysis relies on (`Tree.Grown.shaped`), so the reader is a parser
(`Parser.standard`).
-/

namespace CodeDigest.Java

/-- Whether a pattern can be followed without a token. -/
def Pattern.mayBeEmpty : Pattern → Bool
  | .nothing | .behind _ | .many _ | .ahead _ | .absent _ => true
  | _ => false

/-- Whether a token is all that a pattern asks for. -/
def Pattern.takes : Pattern → Token → Bool
  | .symbol text, t => t.class_ == .symbol && t.text == text
  | .keyword texts, t => t.class_ == .word && texts.contains t.text
  | .word except, t => t.class_ == .word && !except.contains t.text
  | .literal class_, t => t.class_ == class_
  | _, _ => false

/-- Whether a pattern asks for one token. -/
def Pattern.isToken : Pattern → Bool
  | .symbol _ | .keyword _ | .word _ | .literal _ => true
  | _ => false

/-- What a pattern can bring forth; what it looks ahead or back at is left open. -/
inductive Reads (grammar : Kind → Pattern) : Pattern → List Tree → Prop
  | empty {p : Pattern} (h : p.mayBeEmpty = true) : Reads grammar p []
  | token {p : Pattern} {token : Token} (h : p.takes token = true) : Reads grammar p [.leaf token]
  | both {p q : Pattern} {ts us : List Tree} (first : Reads grammar p ts)
      (second : Reads grammar q us) : Reads grammar (.both p q) (ts ++ us)
  | left {p q : Pattern} {ts : List Tree} (first : Reads grammar p ts) :
      Reads grammar (.either p q) ts
  | right {p q : Pattern} {ts : List Tree} (second : Reads grammar q ts) :
      Reads grammar (.either p q) ts
  | many {p : Pattern} {ts us : List Tree} (first : Reads grammar p ts)
      (more : Reads grammar (.many p) us) : Reads grammar (.many p) (ts ++ us)
  | part {kind : Kind} {children : List Tree} (inner : Reads grammar (grammar kind) children) :
      Reads grammar (.part kind) [.node kind children]

/-- The largest number of nodes of a kind that a pattern can bring forth, if there is one. -/
def Pattern.most? (kind : Kind) : Pattern → Option Nat
  | .part k => some (if k = kind then 1 else 0)
  | .both p q => do return (← p.most? kind) + (← q.most? kind)
  | .either p q => do return max (← p.most? kind) (← q.most? kind)
  | .many p => (p.most? kind).filter (· == 0)
  | _ => some 0

/-- Whether a pattern cannot be followed without a node of a kind. -/
def Pattern.brings (kind : Kind) : Pattern → Bool
  | .part k => k == kind
  | .both p q => p.brings kind || q.brings kind
  | .either p q => p.brings kind && q.brings kind
  | _ => false

/-- Every node of a tree has children that its rule can bring forth. -/
def Tree.Grown (grammar : Kind → Pattern) (t : Tree) : Prop :=
  t.Throughout fun k children => Reads grammar (grammar k) children

variable {grammar : Kind → Pattern} {kind : Kind} {pattern : Pattern} {s s' : Reading}
  {ts : List Tree} {fuel n : Nat}

/-! ## What the reader brings forth -/

lemma reads_of_token (h : s.token pattern.takes = some s') :
    ∃ ts, s'.done = ts.reverse ++ s.done ∧ Reads grammar pattern ts := by
  unfold Reading.token at h
  split at h
  · cases h
  · split at h
    next htakes =>
      cases h
      exact ⟨[_], rfl, .token htakes⟩
    next => cases h

lemma reads_of_same (hempty : pattern.mayBeEmpty = true) (h : s = s') :
    ∃ ts, s'.done = ts.reverse ++ s.done ∧ Reads grammar pattern ts :=
  ⟨[], by rw [h, List.reverse_nil, List.nil_append], .empty hempty⟩

/-- The reader brings forth what the pattern can, and keeps what it had. -/
theorem reads_of_read (h : read grammar fuel pattern s = some s') :
    ∃ ts, s'.done = ts.reverse ++ s.done ∧ Reads grammar pattern ts := by
  induction fuel generalizing pattern s s' with
  | zero => cases h
  | succ fuel ih =>
      cases pattern with
      | nothing => exact reads_of_same rfl (Option.some.inj h)
      | symbol | keyword | word | literal => exact reads_of_token h
      | behind | ahead | absent =>
          simp only [read] at h
          split at h
          all_goals first | exact reads_of_same rfl (Option.some.inj h) | cases h
      | both p q =>
          simp only [read] at h
          split at h
          next middle hfirst =>
            obtain ⟨ts, hts, hreads⟩ := ih hfirst
            obtain ⟨us, hus, hreads'⟩ := ih h
            exact ⟨ts ++ us, by simp [hus, hts], .both hreads hreads'⟩
          next => cases h
      | either p q =>
          simp only [read] at h
          split at h
          next found hfirst =>
            obtain ⟨ts, hts, hreads⟩ := ih hfirst
            exact ⟨ts, Option.some.inj h ▸ hts, .left hreads⟩
          next =>
            obtain ⟨ts, hts, hreads⟩ := ih h
            exact ⟨ts, hts, .right hreads⟩
      | many p =>
          simp only [read] at h
          split at h
          next middle hfirst =>
            obtain ⟨ts, hts, hreads⟩ := ih hfirst
            obtain ⟨us, hus, hreads'⟩ := ih h
            exact ⟨ts ++ us, by simp [hus, hts], .many hreads hreads'⟩
          next => exact reads_of_same rfl (Option.some.inj h)
      | part kind =>
          simp only [read] at h
          split at h
          next inner hinner =>
            obtain ⟨ts, hts, hreads⟩ := ih hinner
            cases h
            exact ⟨[.node kind ts], by simp [hts], .part hreads⟩
          next => cases h

/-- Where a pattern asks for one token, one that it takes comes forth. -/
lemma Reads.exists_token (h : Reads grammar pattern ts) (hone : pattern.isToken = true) :
    ∃ token, ts = [.leaf token] ∧ pattern.takes token = true := by
  cases h with
  | empty hempty => cases pattern <;> simp_all [Pattern.isToken, Pattern.mayBeEmpty]
  | token htakes => exact ⟨_, rfl, htakes⟩
  | both | left | right | many | part => cases hone

/-! ## How many nodes there are -/

lemma most?_both {p q : Pattern} (h : (Pattern.both p q).most? kind = some n) :
    ∃ a b, p.most? kind = some a ∧ q.most? kind = some b ∧ a + b = n := by
  simpa [Pattern.most?, Option.bind_eq_some_iff] using h

lemma most?_either {p q : Pattern} (h : (Pattern.either p q).most? kind = some n) :
    ∃ a b, p.most? kind = some a ∧ q.most? kind = some b ∧ max a b = n := by
  simpa [Pattern.most?, Option.bind_eq_some_iff] using h

lemma most?_many {p : Pattern} (h : (Pattern.many p).most? kind = some n) :
    p.most? kind = some 0 ∧ n = 0 := by
  obtain ⟨hmost, hzero⟩ := Option.filter_eq_some_iff.mp h
  obtain rfl : n = 0 := by simpa using hzero
  exact ⟨hmost, rfl⟩

/-- A pattern brings forth no more nodes of a kind than it can. -/
lemma Reads.count_le (h : Reads grammar pattern ts) (hmost : pattern.most? kind = some n) :
    ts.countP (Tree.is kind) ≤ n := by
  induction h generalizing n with
  | empty => simp
  | token => simp [Tree.is, Tree.kind?]
  | both first second ihp ihq =>
      obtain ⟨a, b, ha, hb, rfl⟩ := most?_both hmost
      rw [List.countP_append]
      exact Nat.add_le_add (ihp ha) (ihq hb)
  | left first ih =>
      obtain ⟨a, b, ha, -, rfl⟩ := most?_either hmost
      exact Nat.le_trans (ih ha) (Nat.le_max_left a b)
  | right second ih =>
      obtain ⟨a, b, -, hb, rfl⟩ := most?_either hmost
      exact Nat.le_trans (ih hb) (Nat.le_max_right a b)
  | many first more ihfirst ihmore =>
      obtain ⟨hnone, rfl⟩ := most?_many hmost
      rw [List.countP_append]
      exact Nat.add_le_add (ihfirst hnone) (ihmore hmost)
  | @part k children inner ih =>
      obtain rfl : (if k = kind then 1 else 0) = n := Option.some.inj hmost
      by_cases hk : k = kind <;> simp [Tree.is, Tree.kind?, hk]

/-- A pattern that asks for a node of a kind brings one forth. -/
lemma Reads.exists_of_brings (h : Reads grammar pattern ts)
    (hbrings : pattern.brings kind = true) : ∃ t ∈ ts, t.is kind = true := by
  induction h with
  | @empty p hempty => cases p <;> simp_all [Pattern.brings, Pattern.mayBeEmpty]
  | @token p _ htakes => cases p <;> simp_all [Pattern.brings, Pattern.takes]
  | both first second ihp ihq =>
      rcases Bool.or_eq_true_iff.mp hbrings with hp | hq
      · obtain ⟨t, ht, hkind⟩ := ihp hp
        exact ⟨t, List.mem_append_left _ ht, hkind⟩
      · obtain ⟨t, ht, hkind⟩ := ihq hq
        exact ⟨t, List.mem_append_right _ ht, hkind⟩
  | left first ih => exact ih (Bool.and_eq_true_iff.mp hbrings).1
  | right second ih => exact ih (Bool.and_eq_true_iff.mp hbrings).2
  | many => cases hbrings
  | part inner =>
      exact ⟨_, List.mem_singleton_self _,
        by simpa [Pattern.brings, Tree.is, Tree.kind?] using hbrings⟩

/-- What a pattern brings forth is grown by the grammar all the way down. -/
lemma Reads.grown (h : Reads grammar pattern ts) : ∀ t ∈ ts, t.Grown grammar := by
  induction h with
  | empty => simp
  | token =>
      rintro t ht
      obtain rfl := List.mem_singleton.mp ht
      exact .leaf _
  | both first second ihp ihq | many first second ihp ihq =>
      exact List.forall_mem_append.mpr ⟨ihp, ihq⟩
  | left _ ih | right _ ih => exact ih
  | part inner ih =>
      rintro t ht
      obtain rfl := List.mem_singleton.mp ht
      exact .node inner ih

lemma read?_eq_some_iff {tokens : List Token} {t : Tree} : read? grammar kind tokens = some t ↔
    read grammar (fuelPerToken * (tokens.length + 1)) (.part kind) ⟨[], tokens⟩
      = some ⟨[t], []⟩ := by
  rw [read?]
  split
  next tree hread => simp [hread]
  next hread => exact iff_of_false (by simp) (hread t)

lemma grown_of_read? {tokens : List Token} {t : Tree} (h : read? grammar kind tokens = some t) :
    t.Grown grammar := by
  obtain ⟨ts, hts, hreads⟩ := reads_of_read (read?_eq_some_iff.mp h)
  refine hreads.grown t (List.mem_reverse.mp ?_)
  have hdone : [t] = ts.reverse := by simpa using hts
  exact hdone ▸ List.mem_singleton_self t

/-- **A parsed tree is grown by the grammar.** -/
theorem grown_of_tree? {content : String} {t : Tree} (h : tree? content = some t) :
    t.Grown Grammar.rule := by
  obtain ⟨hbind, -⟩ := Option.filter_eq_some_iff.mp h
  obtain ⟨tokens, -, hread⟩ := Option.bind_eq_some_iff.mp hbind
  exact grown_of_read? hread

/-! ## The shape -/

/-- The rule of a node asks for the children that the node cannot do without. -/
lemma brings_of_mem_required {k kind : Kind} (h : kind ∈ k.required) :
    (Grammar.rule k).brings kind = true := by
  have hall : ∀ kind ∈ k.required, (Grammar.rule k).brings kind = true := by cases k <;> decide
  exact hall kind h

/-- The rule of a node brings forth one child at most of a kind of which there is only one. -/
lemma most?_of_mem_single {k kind : Kind} (h : kind ∈ k.single) :
    (Grammar.rule k).most? kind = some 1 := by
  have hall : ∀ kind ∈ k.single, (Grammar.rule k).most? kind = some 1 := by cases k <;> decide
  exact hall kind h

lemma exists_segments (h : Reads Grammar.rule (.many (.both (.symbol ".") Grammar.anyWord)) ts)
    (token : Token) :
    ∃ tokens : List Token, ts = tokens.map Tree.leaf ∧ (token :: tokens).IsChain OneDot := by
  generalize hp : Pattern.many (.both (.symbol ".") Grammar.anyWord) = pattern at h
  induction h generalizing token with
  | empty => exact ⟨[], rfl, .singleton _⟩
  | token htakes => subst hp; cases htakes
  | both | left | right | part => cases hp
  | many first more _ ihmore =>
      cases hp
      cases first with
      | empty hnone => cases hnone
      | token hnone => cases hnone
      | both hdot hword =>
          obtain ⟨dot, rfl, htakes⟩ := hdot.exists_token rfl
          obtain ⟨word, rfl, -⟩ := hword.exists_token rfl
          obtain ⟨tokens, rfl, hchain⟩ := ihmore word rfl
          have htext : dot.text = "." := beq_iff_eq.mp (Bool.and_eq_true_iff.mp htakes).2
          exact ⟨dot :: word :: tokens, rfl,
            .cons_cons (.inr htext) (.cons_cons (.inl htext) hchain)⟩

/-- Of two neighbours in a qualified name, one is a dot. -/
lemma exists_chain_of_name (h : Reads Grammar.rule (Grammar.rule .name) ts) :
    ∃ tokens : List Token, ts = tokens.map Tree.leaf ∧ tokens.IsChain OneDot := by
  have hreads : Reads Grammar.rule
      (.both Grammar.anyWord (.many (.both (.symbol ".") Grammar.anyWord))) ts := h
  cases hreads with
  | empty hnone | token hnone => cases hnone
  | both hword hmore =>
      obtain ⟨word, rfl, -⟩ := hword.exists_token rfl
      obtain ⟨tokens, rfl, hchain⟩ := exists_segments hmore word
      exact ⟨word :: tokens, rfl, hchain⟩

/-- A label starts with a word of its own. -/
lemma exists_leaf_of_label (h : Reads Grammar.rule (Grammar.rule .switchLabel) ts) :
    ∃ token rest, ts = .leaf token :: rest := by
  obtain ⟨labels, hrule⟩ : ∃ labels, Grammar.rule .switchLabel
      = .either (.both (.keyword ["case"]) labels) (.keyword ["default"]) := ⟨_, rfl⟩
  rw [hrule] at h
  cases h with
  | empty h | token h => cases h
  | left h =>
      cases h with
      | empty h | token h => cases h
      | both hword _ =>
          obtain ⟨token, rfl, -⟩ := hword.exists_token rfl
          exact ⟨token, _, rfl⟩
  | right h =>
      obtain ⟨token, rfl, -⟩ := h.exists_token rfl
      exact ⟨token, [], rfl⟩

/-- The grammar gives a node the children that its kind allows. -/
lemma allows_of_reads {k : Kind} (h : Reads Grammar.rule (Grammar.rule k) ts) : k.Allows ts where
  required kind hkind := h.exists_of_brings (brings_of_mem_required hkind)
  single kind hkind := h.count_le (most?_of_mem_single hkind)
  declaredName := by
    rintro rfl
    obtain ⟨token, rfl, -⟩ := h.exists_token rfl
    exact ⟨token, rfl⟩
  name := by
    rintro rfl
    exact exists_chain_of_name h
  switchLabel := by
    rintro rfl
    exact exists_leaf_of_label h

/-- **A tree that the grammar has grown is of the shape that the analysis relies on.** -/
theorem Tree.Grown.shaped {t : Tree} (h : t.Grown Grammar.rule) : t.Shaped :=
  fun p k children hat => allows_of_reads (h p k children hat)

/-- The reader of Java as a parser. -/
def Parser.standard : Parser where
  tree? := Java.tree?
  shaped h := (grown_of_tree? h).shaped

lemma Parser.tree?_standard : Parser.standard.tree? = Java.tree? := rfl

end CodeDigest.Java
