import Mathlib.Data.List.Chain
import CodeDigest.Proofs.Java.Layout
import CodeDigest.Proofs.Java.Twins
import CodeDigest.Proofs.Text.Splitting

/-!
# Names in trees that differ in a lead

Qualified names are cut out of the source as they stand there, with all that stands between their
words and dots.  `Tree.InName` says that a token is one of such a name and not the first, so that
its lead is a part of the text.  A function of a name's text is the same for both trees unless the
token is one of that name (`Twins.map_textOf?_name_eq`).

Of the name of an annotation only what follows the last dot counts, and that is the same unless the
lead is the one of the last word (`Twins.lastSegment_eq`).  Of the name of a package it counts
whether some word occurs in it: a word without dots, blanks and slashes occurs in a segment or in a
lead, because of two neighbours in a qualified name one is a dot (`isChain_tokens`), and layout
starts and ends with a blank or a slash (`Twins.occursIn_eq`).
-/

namespace CodeDigest.Java

variable {w xs ys L : List Char} {d : Char}

/-! ## What occurs around layout -/

lemma Layout.exists_stop (h : Layout L) (hne : L ≠ []) :
    ∃ front d, L = front ++ [d] ∧ IsStop d := by
  induction h with
  | nothing => exact absurd rfl hne
  | @blank c cs hc _ ih =>
      rcases eq_or_ne cs [] with rfl | hcs
      · exact ⟨[], c, rfl, .inl hc⟩
      · obtain ⟨front, d, rfl, hd⟩ := ih hcs
        exact ⟨c :: front, d, rfl, hd⟩
  | @lineComment text cs _ _ ih =>
      rcases eq_or_ne cs [] with rfl | hcs
      · exact ⟨'/' :: '/' :: text, '\n', rfl, .inl (by decide)⟩
      · obtain ⟨front, d, rfl, hd⟩ := ih hcs
        exact ⟨'/' :: '/' :: (text ++ '\n' :: front), d, by simp, hd⟩
  | @blockComment text cs _ _ ih =>
      rcases eq_or_ne cs [] with rfl | hcs
      · exact ⟨'/' :: '*' :: (text ++ ['*']), '/', by simp, .inr rfl⟩
      · obtain ⟨front, d, rfl, hd⟩ := ih hcs
        exact ⟨'/' :: '*' :: (text ++ '*' :: '/' :: front), d, by simp, hd⟩

lemma infix_of_infix_nil (h : w <:+: []) : w <:+: xs := h.trans List.nil_infix

/-- A word occurs on one side of some layout, or on the other, or in it. -/
lemma infix_layout_iff (hw : ∀ d, IsStop d → d ∉ w) (h : Layout L) (hne : L ≠ []) :
    w <:+: xs ++ (L ++ ys) ↔ w <:+: xs ∨ w <:+: L ∨ w <:+: ys := by
  obtain ⟨d, more, rfl⟩ := List.exists_cons_of_ne_nil hne
  have hd := hw d h.isStop_head
  have hL : w <:+: d :: more ↔ w <:+: more := by
    rw [← List.nil_append (d :: more), infix_append_cons_iff hd]
    exact or_iff_right_of_imp infix_of_infix_nil
  rw [List.cons_append, infix_append_cons_iff hd, hL]
  refine or_congr_right ?_
  rcases eq_or_ne more [] with rfl | hmore
  · exact (or_iff_right_of_imp infix_of_infix_nil).symm
  · obtain ⟨front, d', heq, hd'⟩ := h.exists_stop (List.cons_ne_nil d more)
    obtain ⟨front, rfl⟩ : ∃ front', more = front' ++ [d'] := by
      rcases front with _ | ⟨x, front⟩
      · exact absurd (List.cons.inj heq).2 hmore
      · exact ⟨front, (List.cons.inj heq).2⟩
    rw [List.append_assoc, List.singleton_append, infix_append_cons_iff (hw d' hd'),
      infix_append_cons_iff (hw d' hd')]
    exact or_congr_left (or_iff_left_of_imp infix_of_infix_nil).symm

/-- A word occurs around a dot on one side of it or on the other. -/
lemma infix_dot_iff (hw : '.' ∉ w)
    (hdot : (∃ front, xs = front ++ ['.']) ∨ ∃ back, ys = '.' :: back) :
    w <:+: xs ++ ys ↔ w <:+: xs ∨ w <:+: ys := by
  rcases hdot with ⟨front, rfl⟩ | ⟨back, rfl⟩
  · rw [List.append_assoc, List.singleton_append, infix_append_cons_iff hw,
      infix_append_cons_iff hw]
    exact or_congr_left (or_iff_left_of_imp infix_of_infix_nil).symm
  · rw [infix_append_cons_iff hw, ← List.nil_append ('.' :: back), infix_append_cons_iff hw]
    exact or_congr_right (or_iff_right_of_imp infix_of_infix_nil).symm

/-- A word occurs around a lead in a qualified name on one side of it, or on the other, or in it. -/
lemma occursIn_lead {word x y : String} (hword : ∀ d ∈ '.' :: stops, d ∉ word.toList)
    (h : Layout L)
    (hdot : (∃ front, x.toList = front ++ ['.']) ∨ ∃ back, y.toList = '.' :: back) :
    occursIn word (x ++ String.ofList L ++ y)
      = (occursIn word x || (occursIn word (String.ofList L) || occursIn word y)) := by
  rw [Bool.eq_iff_iff, Bool.or_eq_true, Bool.or_eq_true]
  simp only [occursIn_iff, String.toList_append, String.toList_ofList, List.append_assoc]
  rcases eq_or_ne L [] with rfl | hne
  · rw [List.nil_append, infix_dot_iff (hword '.' List.mem_cons_self) hdot]
    exact or_congr_right (or_iff_right_of_imp infix_of_infix_nil).symm
  · exact infix_layout_iff (fun d hd => hword d (List.mem_cons_of_mem _ (mem_stops hd))) h hne

/-! ## Qualified names -/

namespace Tree

variable {t t' n n' a a' : Tree} {ts : List Tree} {kind : Kind} {q : Place} {i : Nat}

lemma isChain_tokens (h : n.Shaped) (hname : n.is .name = true) : n.tokens.IsChain OneDot := by
  cases n with
  | leaf token => exact .singleton _
  | node k cs =>
      obtain rfl : k = .name := by simpa [is, kind?] using hname
      obtain ⟨tokens, rfl, hchain⟩ := h.root.name rfl
      have htokens : (tokens.map Tree.leaf).flatMap Tree.tokens = tokens := by
        simp [List.flatMap_map, Tree.tokens]
      rwa [tokens_node, htokens]

/-- The token with number `i` is one of a name's, but not the first of them, and `back` tokens of
the name follow it; the name is that of a node of a kind. -/
def InName (t : Tree) (kind : Kind) (i back : Nat) : Prop :=
  ∃ p j a n front, t.at? p = some a ∧ a.is kind = true ∧ t.at? (p ++ [j]) = some n ∧
    n.is .name = true ∧ 0 < front ∧ i = t.offset (p ++ [j]) + front ∧
      n.tokens.length = front + 1 + back

/-- Whether the names of all nodes of a kind are one word each. -/
def hasPlainNames (t : Tree) (kind : Kind) : Bool :=
  (t.nodesOf kind).all fun a => (a.childrenOf .name).all fun n => n.tokens.length == 1

lemma not_inName (h : t.hasPlainNames kind = true) (i back : Nat) : ¬ t.InName kind i back := by
  rintro ⟨p, j, a, n, front, hat, hkind, hj, hname, hfront, -, hlength⟩
  have ha : a ∈ t.nodesOf kind := by
    rw [← map_snd_spots_is]
    exact List.mem_map.mpr ⟨(p, a), mem_spots.mpr ⟨hat, hkind, by simp [Open]⟩, rfl⟩
  have hn : n ∈ a.childrenOf .name := by
    rw [at?_append_of hat] at hj
    obtain ⟨c, hc, hcn⟩ := Option.bind_eq_some_iff.mp hj
    obtain rfl := Option.some.inj hcn
    exact List.mem_filter.mpr ⟨List.mem_of_getElem? hc, hname⟩
  have hone := beq_iff_eq.mp (List.all_eq_true.mp (List.all_eq_true.mp h a ha) n hn)
  omega

lemma lastSegment_of_dot (x y : String) :
    lastSegment (x ++ String.singleton '.' ++ y) = lastSegment y := by
  have hne : pieces '.' y ≠ [] := by simp [pieces, Text.split_ne_nil]
  rw [lastSegment, lastSegment, pieces_append, List.getLast?_append,
    List.getLast?_eq_some_getLast hne, Option.some_or, Option.getD_some, Option.getD_some]

lemma lastSegment_append {z : String} (h : '.' ∈ z.toList) (x : String) :
    lastSegment (x ++ z) = lastSegment z := by
  obtain ⟨u, v, hz⟩ := List.append_of_mem h
  have hz' : z = String.ofList u ++ String.singleton '.' ++ String.ofList v :=
    String.toList_injective (by simp [hz])
  rw [hz', ← String.append_assoc, ← String.append_assoc, lastSegment_of_dot, lastSegment_of_dot]

variable {token : Token} {before after front back : List Token} {lead : List Char}

lemma slice_eq_append (htokens : n.tokens = front ++ token :: back) (hne : front ≠ []) :
    n.slice = sliceOf front ++ String.ofList token.lead ++ (token.text ++ spelled back) := by
  obtain ⟨first, front, rfl⟩ := List.exists_cons_of_ne_nil hne
  rw [slice, htokens]
  apply String.toList_injective
  simp [sliceOf, spelled]

/-- There is a dot on one side of what stands between two tokens of a qualified name. -/
lemma exists_dot (h : n.Shaped) (hname : n.is .name = true)
    (htokens : n.tokens = front ++ token :: back) (hne : front ≠ []) :
    (∃ u, (sliceOf front).toList = u ++ ['.']) ∨
      ∃ v, (token.text ++ spelled back).toList = '.' :: v := by
  have hchain := isChain_tokens h hname
  rw [htokens, List.isChain_append] at hchain
  obtain ⟨front, prev, rfl⟩ := (List.eq_nil_or_concat front).resolve_left hne
  rw [List.concat_eq_append] at hchain ⊢
  rcases hchain.2.2 prev (by simp) token (by simp) with hdot | hdot
  · refine .inl ?_
    rcases front with _ | ⟨first, front⟩
    · exact ⟨[], by simp [sliceOf, spelled, hdot]⟩
    · refine ⟨first.text.toList ++ (spelled front).toList ++ prev.lead, ?_⟩
      simp [sliceOf, spelled, hdot]
  · exact .inr ⟨(spelled back).toList, by rw [String.toList_append, hdot]; rfl⟩

variable (h : t'.stripped = t.stripped) (htokens : t.tokens = before ++ token :: after)
  (htokens' : t'.tokens = before ++ { token with lead } :: after)

include h htokens htokens'

/-- What a function has of the text of a name is the same, where it is the same for the name with
the token in it, not in front. -/
lemma Twins.map_textOf?_name_eq {β : Type*} {f : String → β} (ha : Twins t t' a a')
    (hname : ∀ p j (n n' : Tree) front back, t.at? p = some a → t.at? (p ++ [j]) = some n →
      n.is .name = true → front ≠ [] → before.length = t.offset (p ++ [j]) + front.length →
      n.tokens = front ++ token :: back → n'.tokens = front ++ { token with lead } :: back →
      f n'.slice = f n.slice) :
    (a'.textOf? .name).map f = (a.textOf? .name).map f := by
  obtain ⟨p, hat, hat'⟩ := ha
  rw [textOf?, textOf?]
  cases hn : a.child? .name with
  | none => rw [Twins.child?_none h ⟨p, hat, hat'⟩ hn]
  | some n =>
      obtain ⟨j, n', hn', hj, hj'⟩ := Twins.child? h hat hat' hn
      rw [hn', Option.map_some, Option.map_some, Option.map_some, Option.map_some]
      refine congrArg some ?_
      obtain hsame | ⟨front, back, hfront, hnumber, hold, hnew⟩ :=
        Twins.slice_eq h htokens htokens' hj hj'
      · rw [hsame]
      · exact hname p j n n' front back hat hj (List.find?_some hn) hfront hnumber hold hnew

/-- **What follows the last dot of a name** is the same unless the lead is the one of the last
word. -/
lemma Twins.lastSegment_eq (hshaped : t.Shaped) (ha : Twins t t' a a')
    (hkind : a.is kind = true) (hname : ¬ t.InName kind before.length 0) :
    (a'.textOf? .name).map lastSegment = (a.textOf? .name).map lastSegment := by
  refine ha.map_textOf?_name_eq h htokens htokens' ?_
  intro p j n n' front back hat hj hisname hfront hnumber hold hnew
  rcases back with _ | ⟨next, back⟩
  · refine absurd ⟨p, j, a, n, front.length, hat, hkind, hj, hisname,
      List.length_pos_iff.mpr hfront, hnumber, ?_⟩ hname
    simp [hold]
  · have hdot : '.' ∈ (token.text ++ spelled (next :: back)).toList := by
      have hchain := isChain_tokens (hshaped.of_at? hj) hisname
      rw [hold, List.isChain_append] at hchain
      have hdots := (List.isChain_cons_cons.mp hchain.2.1).1
      rw [String.toList_append, toList_spelled_cons]
      rcases hdots with hdot | hdot <;> simp [hdot]
    rw [slice_eq_append hold hfront, slice_eq_append hnew hfront, lastSegment_append hdot,
      lastSegment_append hdot]

/-- **A word occurs in the text of a name** just when it did before, provided that this is so in the
lead. -/
lemma Twins.occursIn_eq (word : String) (hword : ∀ d ∈ '.' :: stops, d ∉ word.toList)
    (hshaped : t.Shaped) (holdlead : Layout token.lead) (hlead : Layout lead)
    (ha : Twins t t' a a') (hkind : a.is kind = true)
    (hoccurs : (∃ back, t.InName kind before.length back) →
      occursIn word (String.ofList lead) = occursIn word (String.ofList token.lead)) :
    (a'.textOf? .name).map (occursIn word) = (a.textOf? .name).map (occursIn word) := by
  refine ha.map_textOf?_name_eq h htokens htokens' ?_
  intro p j n n' front back hat hj hisname hfront hnumber hold hnew
  have hdot := exists_dot (hshaped.of_at? hj) hisname hold hfront
  rw [slice_eq_append hold hfront, slice_eq_append hnew hfront, occursIn_lead hword hlead hdot,
    occursIn_lead hword holdlead hdot, hoccurs]
  exact ⟨back.length, p, j, a, n, front.length, hat, hkind, hj, hisname,
    List.length_pos_iff.mpr hfront, hnumber, by simp [hold, Nat.add_assoc, Nat.add_comm 1]⟩

end Tree

end CodeDigest.Java
