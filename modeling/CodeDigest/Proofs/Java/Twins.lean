import CodeDigest.Proofs.Java.Skeletons

/-!
# Trees that differ in a lead

Two trees that are the same without leads have their nodes at the same places, and `Tree.Twins` are
the two nodes at one place.  Searches find twins (`Twins.child?`, `Twins.childrenOf`,
`Twins.nodesOf`).

Where the two trees differ in the lead of a single token, the texts of twins are the same unless
this token is one of theirs and not the first (`Twins.slice_eq`): the number of the token and the
number of tokens in front of a place (`Tree.offset`) say whether it is.
-/

namespace CodeDigest.Java

namespace Tree

variable {t t' n n' : Tree} {p q : Place} {kind : Kind}

lemma nodesOf_eq (kind : Kind) (t : Tree) : t.nodesOf kind
    = (if t.is kind then [t] else []) ++ t.children.flatMap (nodesOf kind) := by
  cases t with
  | leaf token => simp [nodesOf, is, kind?, children]
  | node k cs => simp [nodesOf, nodesOfAll_eq, is, kind?, children]

/-- Two nodes are at the same place of two trees. -/
def Twins (t t' n n' : Tree) : Prop := ∃ q, t.at? q = some n ∧ t'.at? q = some n'

lemma at?_stripped (t : Tree) (q : Place) : t.stripped.at? q = (t.at? q).map stripped := by
  induction q generalizing t with
  | nil => rfl
  | cons i q ih =>
      rw [at?_cons, at?_cons, children_stripped, List.getElem?_map]
      cases t.children[i]? with
      | none => rfl
      | some c => exact ih c

namespace Twins

lemma stripped_eq (h : t'.stripped = t.stripped) (hn : Twins t t' n n') :
    n'.stripped = n.stripped := by
  obtain ⟨q, hat, hat'⟩ := hn
  have hsame := congrArg (·.at? q) h
  simpa [at?_stripped, hat, hat'] using hsame

lemma is_eq (h : t'.stripped = t.stripped) (hn : Twins t t' n n') (kind : Kind) :
    n'.is kind = n.is kind := by
  rw [← is_stripped, hn.stripped_eq h, is_stripped]

lemma children (h : t'.stripped = t.stripped) (hn : Twins t t' n n') :
    List.Forall₂ (Twins t t') n.children n'.children := by
  have hsame := congrArg (List.length ∘ Tree.children) (hn.stripped_eq h)
  obtain ⟨q, hat, hat'⟩ := hn
  refine List.forall₂_iff_get.mpr
    ⟨by simpa [eq_comm] using hsame, fun i hi hi' => ⟨q ++ [i], ?_, ?_⟩⟩
  · simp [at?_append_of hat, at?_cons, hi]
  · simp [at?_append_of hat', at?_cons, hi']

lemma childrenOf (h : t'.stripped = t.stripped) (hn : Twins t t' n n') (kind : Kind) :
    List.Forall₂ (Twins t t') (n.childrenOf kind) (n'.childrenOf kind) :=
  List.rel_filter (fun _ _ hc => Bool.eq_iff_iff.mp (hc.is_eq h kind).symm) (hn.children h)

lemma nodesOf (h : t'.stripped = t.stripped) (hn : Twins t t' n n') (kind : Kind) :
    List.Forall₂ (Twins t t') (n.nodesOf kind) (n'.nodesOf kind) := by
  induction n using Tree.induction generalizing n' with
  | _ n ih =>
      rw [nodesOf_eq, nodesOf_eq, hn.is_eq h]
      refine List.rel_append ?_ ?_
      · split
        · exact .cons hn .nil
        · exact .nil
      · have hchildren := hn.children h
        generalize n.children = cs at ih hchildren
        generalize n'.children = cs' at hchildren
        induction hchildren with
        | nil => exact .nil
        | cons hc _ ihcs =>
            rw [List.flatMap_cons, List.flatMap_cons]
            exact List.rel_append (ih _ List.mem_cons_self hc)
              (ihcs fun c hmem => ih c (List.mem_cons_of_mem _ hmem))

/-- The first children of a kind have the same number. -/
lemma child? (h : t'.stripped = t.stripped) (hat : t.at? q = some n) (hat' : t'.at? q = some n')
    {c : Tree} (hc : n.child? kind = some c) : ∃ i c', n'.child? kind = some c' ∧
      t.at? (q ++ [i]) = some c ∧ t'.at? (q ++ [i]) = some c' := by
  obtain ⟨hkind, i, hi, rfl, hfirst⟩ := List.find?_eq_some_iff_getElem.mp hc
  have hchildren := children h ⟨q, hat, hat'⟩
  have hi' : i < n'.children.length := hchildren.length_eq ▸ hi
  have hsame : ∀ j (hj : j < n.children.length) (hj' : j < n'.children.length),
      n'.children[j].is kind = n.children[j].is kind := fun j hj hj' =>
    (hchildren.get hj hj').is_eq h kind
  refine ⟨i, n'.children[i], ?_, ?_, ?_⟩
  · refine List.find?_eq_some_iff_getElem.mpr ⟨(hsame i hi hi').trans hkind, i, hi', rfl, ?_⟩
    intro j hj
    rw [hsame j (Nat.lt_trans hj hi)]
    exact hfirst j hj
  · simp [at?_append_of hat, at?_cons, hi]
  · simp [at?_append_of hat', at?_cons, hi']

lemma child?_none (h : t'.stripped = t.stripped) (hn : Twins t t' n n')
    (hc : n.child? kind = none) : n'.child? kind = none := by
  rw [← Option.map_eq_none_iff (f := stripped), ← child?_stripped, hn.stripped_eq h,
    child?_stripped, hc, Option.map_none]

lemma members (h : t'.stripped = t.stripped) (hn : Twins t t' n n') (kind : Kind) :
    List.Forall₂ (Twins t t') (n.members kind) (n'.members kind) := by
  obtain ⟨q, hat, hat'⟩ := hn
  rw [Tree.members, Tree.members]
  cases hbody : n.child? .classBody with
  | none =>
      rw [child?_none h ⟨q, hat, hat'⟩ hbody]
      exact .nil
  | some body =>
      obtain ⟨i, body', hbody', hi, hi'⟩ := child? h hat hat' hbody
      rw [hbody']
      exact childrenOf h ⟨_, hi, hi'⟩ kind

end Twins

/-! ## Tokens by number -/

/-- The number of tokens in front of the node at a place. -/
def offset : Tree → Place → Nat
  | _, [] => 0
  | t, i :: p =>
    (tokensOfAll (t.children.take i)).length + (t.children[i]?).elim 0 fun c => c.offset p

/-- The tokens of a node stand together. -/
lemma exists_tokens_of_at? (hat : t.at? q = some n) :
    ∃ before after, t.tokens = before ++ n.tokens ++ after ∧ before.length = t.offset q := by
  induction q generalizing t with
  | nil =>
      obtain rfl := Option.some.inj hat
      exact ⟨[], [], by simp, rfl⟩
  | cons i q ih =>
      obtain ⟨c, hc, hat⟩ := Option.bind_eq_some_iff.mp hat
      obtain ⟨before, after, htokens, hlength⟩ := ih hat
      cases t with
      | leaf token => simp [Tree.children] at hc
      | node kind cs =>
          rw [Tree.children] at hc
          obtain ⟨hi, rfl⟩ := List.getElem?_eq_some_iff.mp hc
          have hsplit : cs = cs.take i ++ cs[i] :: cs.drop (i + 1) := by
            rw [← List.drop_eq_getElem_cons hi, List.take_append_drop]
          refine ⟨(cs.take i).flatMap tokens ++ before, after ++ (cs.drop (i + 1)).flatMap tokens,
            ?_, ?_⟩
          · rw [tokens_node]
            nth_rewrite 1 [hsplit]
            rw [List.flatMap_append, List.flatMap_cons, htokens]
            simp only [List.append_assoc]
          · rw [List.length_append, hlength, offset, Tree.children, hc, tokensOfAll_eq]
            rfl

lemma offset_stripped (t : Tree) (q : Place) : t.stripped.offset q = t.offset q := by
  induction q generalizing t with
  | nil => rfl
  | cons i q ih =>
      have hfront : (tokensOfAll ((t.children.take i).map stripped)).length
          = (tokensOfAll (t.children.take i)).length := by
        have hnode := congrArg List.length (tokens_stripped (node .block (t.children.take i)))
        rwa [stripped_node, tokens, tokens, List.length_map] at hnode
      rw [offset, offset, children_stripped, ← List.map_take, hfront, List.getElem?_map]
      cases t.children[i]? with
      | none => rfl
      | some c => exact congrArg (_ + ·) (ih c)

lemma tokens_of_at? (hat : t.at? q = some n) :
    n.tokens = (t.tokens.drop (t.offset q)).take n.tokens.length := by
  obtain ⟨before, after, htokens, hlength⟩ := exists_tokens_of_at? hat
  rw [htokens, List.append_assoc, ← hlength, List.drop_left, List.take_left]

variable {token : Token} {before after : List Token} {lead : List Char}

/-- The tokens of a node in a tree with another token at one place. -/
lemma Twins.tokens_eq (h : t'.stripped = t.stripped) (hat : t.at? q = some n)
    (hat' : t'.at? q = some n') {i : Nat} (htokens : t'.tokens = t.tokens.set i token) :
    n'.tokens = if i < t.offset q then n.tokens else n.tokens.set (i - t.offset q) token := by
  have hoffset : t'.offset q = t.offset q := by rw [← offset_stripped, h, offset_stripped]
  have hlength : n'.tokens.length = n.tokens.length := by
    have hsame := congrArg (List.length ∘ tokens) (Twins.stripped_eq h ⟨q, hat, hat'⟩)
    simpa [tokens_stripped] using hsame
  rw [tokens_of_at? hat', hoffset, hlength, htokens, List.drop_set]
  split
  · exact (tokens_of_at? hat).symm
  · rw [List.take_set, ← tokens_of_at? hat]

/-- **The text of a node in a tree with another lead**: it is the same unless the token with the
lead is one of the node's and not the first. -/
theorem Twins.slice_eq (h : t'.stripped = t.stripped)
    (htokens : t.tokens = before ++ token :: after)
    (htokens' : t'.tokens = before ++ { token with lead } :: after) (hat : t.at? q = some n)
    (hat' : t'.at? q = some n') : n'.slice = n.slice ∨
      ∃ front back, front ≠ [] ∧ before.length = t.offset q + front.length ∧
        n.tokens = front ++ token :: back ∧ n'.tokens = front ++ { token with lead } :: back := by
  have hset : t'.tokens = t.tokens.set before.length { token with lead } := by
    rw [htokens, htokens']
    simp
  have hnew := tokens_eq h hat hat' hset
  split at hnew
  next => exact .inl (by rw [slice, slice, hnew])
  next hbehind =>
    obtain ⟨k, hk⟩ : ∃ k, before.length = t.offset q + k := ⟨before.length - t.offset q, by omega⟩
    rw [hk, Nat.add_sub_cancel_left] at hnew
    rcases Nat.lt_or_ge k n.tokens.length with hlt | hge
    · have htoken : n.tokens[k] = token := by
        have hsome : n.tokens[k]? = some token := by
          rw [tokens_of_at? hat, List.getElem?_take_of_lt hlt, List.getElem?_drop, ← hk, htokens]
          simp
        exact (List.getElem?_eq_some_iff.mp hsome).2
      have hold : n.tokens = n.tokens.take k ++ token :: n.tokens.drop (k + 1) := by
        rw [← htoken, ← List.drop_eq_getElem_cons hlt, List.take_append_drop]
      rw [List.set_eq_take_append_cons_drop, if_pos hlt] at hnew
      rcases Nat.eq_zero_or_pos k with rfl | hpos
      · rw [List.take_zero, List.nil_append] at hold hnew
        exact .inl (by rw [slice, slice, hnew, hold]; rfl)
      · have hlength : (n.tokens.take k).length = k := List.length_take_of_le (Nat.le_of_lt hlt)
        exact .inr ⟨n.tokens.take k, n.tokens.drop (k + 1),
          List.ne_nil_of_length_pos (by omega), by omega, hold, hnew⟩
    · exact .inl (by rw [slice, slice, hnew, List.set_eq_of_length_le hge])

end Tree

end CodeDigest.Java
