import Mathlib.Data.List.DropRight
import CodeDigest.Narration.Model
import CodeDigest.Proofs.Narration.Answers
import CodeDigest.Proofs.Text.Trimming

/-!
# Quotation marks around a description

A model likes to put a description into quotation marks.  They are taken away again, the double ones
first, and this file says what else is.

A mark is stripped at both ends, and at each end as often as it stands there.  So a sentence is
`Surrounded` by what is taken away, and one between a pair of marks comes out whole
(`withoutQuotes_enclosed`).  But a mark at one end needs no partner at the other: a sentence stays
as it is only if it is `Bare` at both ends (`withoutQuotes_eq_self_iff`), and one that ends in a
quoted word is damaged (`Narrator.description_loses_mark`).

`Narrator.description_of_reply` says this of a model's replies.
-/

namespace CodeDigest

namespace ModelValue

variable {q c : Char} {cs text : List Char}

/-! ## Stripping -/

/-- A quotation mark. -/
def IsQuote (c : Char) : Prop := c = '"' ∨ c = '\''

instance (c : Char) : Decidable (IsQuote c) := inferInstanceAs (Decidable (_ ∨ _))

/-- Neither the first nor the last character is a quotation mark. -/
structure Bare (cs : List Char) : Prop where
  head : ∀ c ∈ cs.head?, ¬IsQuote c
  last : ∀ c ∈ cs.getLast?, ¬IsQuote c

/-- The first and the last character are the same quotation mark. -/
def Enclosed (cs : List Char) : Prop :=
  ∃ q ∈ ['"', '\''], cs.head? = some q ∧ cs.getLast? = some q

/-- The text without a mark at its ends, however often the mark stands there. -/
def strip (q : Char) (cs : List Char) : List Char := (cs.dropWhile (· == q)).rdropWhile (· == q)

lemma dropWhile_of_head?_ne (h : cs.head? ≠ some q) : cs.dropWhile (· == q) = cs := by
  cases cs with
  | nil => rfl
  | cons c cs =>
      have hne : c ≠ q := by simpa using h
      exact List.dropWhile_cons_of_neg (by simpa using hne)

lemma rdropWhile_of_getLast?_ne (h : cs.getLast? ≠ some q) : cs.rdropWhile (· == q) = cs := by
  rw [List.rdropWhile_eq_self_iff]
  intro hne heq
  exact h (by rw [List.getLast?_eq_getLast_of_ne_nil hne, beq_iff_eq.mp heq])

/-- A text that is another one with characters of some kind on both sides. -/
def Surrounded (kind : Char → Prop) (inner cs : List Char) : Prop :=
  ∃ front back, cs = front ++ inner ++ back ∧ ∀ c ∈ front ++ back, kind c

lemma surrounded_dropWhile (p : Char → Bool) (cs : List Char) :
    Surrounded (p · = true) ((cs.dropWhile p).rdropWhile p) cs := by
  refine ⟨cs.takeWhile p, (cs.dropWhile p).rtakeWhile p, ?_, ?_⟩
  · rw [List.append_assoc, List.rdropWhile_append_rtakeWhile, List.takeWhile_append_dropWhile]
  · intro c hc
    rcases List.mem_append.mp hc with hc | hc
    · exact List.mem_takeWhile_imp hc
    · exact List.mem_rtakeWhile_imp hc

lemma Surrounded.imp {kind kind' : Char → Prop} {inner cs : List Char}
    (h : Surrounded kind inner cs) (himp : ∀ c, kind c → kind' c) : Surrounded kind' inner cs := by
  obtain ⟨front, back, rfl, hends⟩ := h
  exact ⟨front, back, rfl, fun c hc => himp c (hends c hc)⟩

lemma Surrounded.trans {kind : Char → Prop} {inner middle cs : List Char}
    (h : Surrounded kind inner middle) (h' : Surrounded kind middle cs) :
    Surrounded kind inner cs := by
  obtain ⟨front, back, rfl, hends⟩ := h
  obtain ⟨front', back', rfl, hends'⟩ := h'
  refine ⟨front' ++ front, back ++ back', by simp, ?_⟩
  intro c hc
  simp only [List.mem_append] at hc hends hends'
  rcases hc with (hc | hc) | hc | hc
  · exact hends' c (.inl hc)
  · exact hends c (.inl hc)
  · exact hends c (.inr hc)
  · exact hends' c (.inr hc)

lemma strip_sublist (q : Char) (cs : List Char) : (strip q cs).Sublist cs :=
  (List.rdropWhile_prefix _ _).sublist.trans (List.dropWhile_sublist _)

/-- A text stays as it is when the mark stands at neither end. -/
lemma strip_eq_self_iff : strip q cs = cs ↔ cs.head? ≠ some q ∧ cs.getLast? ≠ some q := by
  constructor
  · intro h
    have hprefix : (strip q cs).Sublist (cs.dropWhile (· == q)) :=
      (List.rdropWhile_prefix _ _).sublist
    rw [h] at hprefix
    have hfront : cs.dropWhile (· == q) = cs := (List.dropWhile_sublist _).antisymm hprefix
    rw [strip, hfront, List.rdropWhile_eq_self_iff] at h
    constructor
    · intro hhead
      have hfirst := List.head?_dropWhile_not (· == q) cs
      rw [hfront, hhead] at hfirst
      simp at hfirst
    · intro hlast
      obtain ⟨hne, hmark⟩ := List.mem_getLast?_eq_getLast hlast
      exact h hne (by rw [← hmark, beq_self_eq_true])
  · intro h
    rw [strip, dropWhile_of_head?_ne h.1, rdropWhile_of_getLast?_ne h.2]

/-- A text between two marks comes out whole. -/
lemma strip_enclosed (hhead : cs.head? ≠ some q) (hlast : cs.getLast? ≠ some q) :
    strip q (q :: cs ++ [q]) = cs := by
  rcases eq_or_ne cs [] with rfl | hne
  · simp [strip]
  · have hfront : (q :: cs ++ [q]).dropWhile (· == q) = cs ++ [q] := by
      rw [List.cons_append, List.dropWhile_cons_of_pos (by simp)]
      exact dropWhile_of_head?_ne (by rwa [List.head?_append_of_ne_nil _ hne])
    rw [strip, hfront, List.rdropWhile_concat_pos _ _ _ (by simp), rdropWhile_of_getLast?_ne hlast]

/-! ## Sentences -/

/-- What is left of a sentence in quotation marks. -/
def withoutQuotes (cs : List Char) : List Char := Text.trim (strip '\'' (strip '"' cs))

lemma unquoted_eq (s : String) :
    unquoted s = String.ofList (withoutQuotes (Text.trim s.toList)) := rfl

/-- Nothing but marks and blanks at the ends is taken away. -/
lemma surrounded_withoutQuotes (cs : List Char) :
    Surrounded (fun c => IsQuote c ∨ Text.isBlank c = true) (withoutQuotes cs) cs := by
  have hblanks : Surrounded (fun c => IsQuote c ∨ Text.isBlank c = true) (withoutQuotes cs)
      (strip '\'' (strip '"' cs)) :=
    (surrounded_dropWhile Text.isBlank _).imp fun _ h => .inr h
  have hsingle : Surrounded (fun c => IsQuote c ∨ Text.isBlank c = true)
      (strip '\'' (strip '"' cs)) (strip '"' cs) :=
    (surrounded_dropWhile _ _).imp fun _ h => .inl (.inr (beq_iff_eq.mp h))
  have hdouble : Surrounded (fun c => IsQuote c ∨ Text.isBlank c = true) (strip '"' cs) cs :=
    (surrounded_dropWhile _ _).imp fun _ h => .inl (.inl (beq_iff_eq.mp h))
  exact (hblanks.trans hsingle).trans hdouble

lemma bare_iff : Bare cs ↔ strip '"' cs = cs ∧ strip '\'' cs = cs := by
  rw [strip_eq_self_iff, strip_eq_self_iff]
  constructor
  · intro h
    refine ⟨⟨?_, ?_⟩, ?_, ?_⟩
    · exact fun hhead => h.head _ hhead (.inl rfl)
    · exact fun hlast => h.last _ hlast (.inl rfl)
    · exact fun hhead => h.head _ hhead (.inr rfl)
    · exact fun hlast => h.last _ hlast (.inr rfl)
  · rintro ⟨hdouble, hsingle⟩
    constructor
    · rintro c hc (rfl | rfl)
      · exact hdouble.1 hc
      · exact hsingle.1 hc
    · rintro c hc (rfl | rfl)
      · exact hdouble.2 hc
      · exact hsingle.2 hc

instance (cs : List Char) : Decidable (Bare cs) := decidable_of_iff _ bare_iff.symm

/-- **A sentence stays as it is when it is bare, and only then.**  A mark at one of its ends is
stripped with or without a partner at the other. -/
theorem withoutQuotes_eq_self_iff (h : Text.Tidy cs) : withoutQuotes cs = cs ↔ Bare cs := by
  rw [bare_iff]
  constructor
  · intro heq
    have hblanks : (withoutQuotes cs).Sublist (strip '\'' (strip '"' cs)) := Text.trim_sublist _
    rw [heq] at hblanks
    have hdouble : strip '"' cs = cs :=
      (strip_sublist '"' cs).antisymm (hblanks.trans (strip_sublist _ _))
    rw [hdouble] at hblanks
    exact ⟨hdouble, (strip_sublist _ _).antisymm hblanks⟩
  · rintro ⟨hdouble, hsingle⟩
    rw [withoutQuotes, hdouble, hsingle, h.trim_eq]

/-- **A sentence between a pair of marks** comes out whole. -/
theorem withoutQuotes_enclosed (hq : IsQuote q) (hbare : Bare cs) (htidy : Text.Tidy cs) :
    withoutQuotes (q :: cs ++ [q]) = cs := by
  obtain ⟨hdouble, hsingle⟩ := bare_iff.mp hbare
  rcases hq with rfl | rfl
  · obtain ⟨hhead, hlast⟩ := strip_eq_self_iff.mp hdouble
    rw [withoutQuotes, strip_enclosed hhead hlast, hsingle, htidy.trim_eq]
  · obtain ⟨hhead, hlast⟩ := strip_eq_self_iff.mp hsingle
    have houter : strip '"' ('\'' :: cs ++ ['\'']) = '\'' :: cs ++ ['\''] := by
      rw [strip_eq_self_iff, List.getLast?_concat]
      simp
    rw [withoutQuotes, houter, strip_enclosed hhead hlast, htidy.trim_eq]

end ModelValue

/-! ## Descriptions -/

namespace Narrator

open ModelValue

variable {σ : Type} {members : List (String × Json)} {d : String}

/-- What is answered when a reply has a description. -/
lemma answer_eq (model : Model σ) (state : σ) (signature className : String)
    (annotations : List String)
    (hreply : (model (Question.method signature className annotations).prompt
      (Question.method signature className annotations).schema state).1 = .ok (.object members))
    (hfield : members.lookup "description" = some (.string d)) (hsaid : Text.trim d.toList ≠ []) :
    (ofModel model (.method signature className annotations) state).1
      = if withoutQuotes (Text.trim d.toList) = [] then none
        else some (String.ofList (withoutQuotes (Text.trim d.toList))) := by
  have htrimmed : trimmed? d = some (trimmed d) := by simp [trimmed?, trimmed, hsaid]
  have hfound : (Json.object members).get? "description" = some (.string d) := hfield
  have htext : text? "description" (.object members) = some (trimmed d) := by
    change (((Json.object members).get? "description").bind Json.string?).bind trimmed? = _
    rw [hfound]
    exact htrimmed
  have hanswer : (ofModel model (.method signature className annotations) state).1
      = (Question.method signature className annotations).readAnswer (.object members) := by
    simp only [ofModel, bind_apply, hreply]
    rfl
  rw [hanswer, Question.readAnswer, htext, Option.map_some, unquoted_eq, trimmed,
    String.toList_ofList, Text.trim_trim]
  split_ifs with hempty
  · rw [hempty]
    rfl
  · exact Option.filter_some_pos (by simpa using hempty)

/-- **What becomes of a description.**

A description that says something is answered as it stands, trimmed, exactly when no quotation mark
stands at either end of it, and a pair of marks around a sentence that has neither marks nor blanks
at its own ends is taken away.  Whatever the description, only marks and blanks at its ends are
taken away; there is no answer if nothing else is in it. -/
theorem description_of_reply (model : Model σ) (state : σ) (signature className : String)
    (annotations : List String)
    (hreply : (model (Question.method signature className annotations).prompt
      (Question.method signature className annotations).schema state).1 = .ok (.object members))
    (hfield : members.lookup "description" = some (.string d)) (hsaid : Text.trim d.toList ≠ []) :
    let sentence := Text.trim d.toList
    let answer : Option String := (ofModel model (.method signature className annotations) state).1
    (answer = some (String.ofList sentence) ↔ Bare sentence) ∧
      (∀ q cs, IsQuote q → Bare cs → Text.Tidy cs → sentence = q :: cs ++ [q] →
        answer = if cs = [] then none else some (String.ofList cs)) ∧
      ∃ cs, Surrounded (fun c => IsQuote c ∨ Text.isBlank c = true) cs sentence ∧
        answer = if cs = [] then none else some (String.ofList cs) := by
  intro sentence answer
  have hanswer : answer = if withoutQuotes sentence = [] then none
      else some (String.ofList (withoutQuotes sentence)) :=
    answer_eq model state signature className annotations hreply hfield hsaid
  refine ⟨?_, ?_, withoutQuotes sentence, surrounded_withoutQuotes sentence, hanswer⟩
  · rw [← withoutQuotes_eq_self_iff (Text.tidy_trim _), hanswer]
    constructor
    · intro h
      split_ifs at h
      exact String.ofList_injective (Option.some.inj h)
    · intro h
      rw [h, if_neg hsaid]
  · intro q cs hq hbare htidy hsentence
    rw [hanswer, hsentence, withoutQuotes_enclosed hq hbare htidy]

/-- A sentence with marks of its own, between double ones and blanks. -/
theorem description_of_reply_in_marks :
    let d := " \"Creates an 'open' order.\"\n"
    let members := [("description", Json.string d)]
    let model : Model Unit := fun _ _ state => (.ok (.object members), state)
    members.lookup "description" = some (.string d) ∧ Text.trim d.toList ≠ [] ∧
      (ofModel model (.method "void create()" "Orders" []) ()).1
        = some "Creates an 'open' order." := by
  intro d members model
  have hsaid : Text.trim d.toList ≠ [] := by decide
  obtain ⟨-, henclosed, -⟩ := description_of_reply model () "void create()" "Orders" [] rfl
    (show members.lookup "description" = some (.string d) from rfl) hsaid
  have hanswer := henclosed '"' "Creates an 'open' order.".toList (.inl rfl) (by decide)
    (by decide) (by decide)
  exact ⟨rfl, hsaid, hanswer⟩

/-- A mark that belongs to a word at the end of the sentence is lost, although the sentence is not
between marks. -/
theorem description_loses_mark :
    let d := "Sets the status to 'open'"
    let model : Model Unit := fun _ _ state => (.ok (.object [("description", .string d)]), state)
    let answer : Option String := (ofModel model (.method "void open()" "Orders" []) ()).1
    Text.trim d.toList = d.toList ∧ ¬Enclosed d.toList ∧
      answer = some "Sets the status to 'open" ∧ answer ≠ some d := by
  intro d model answer
  have hfield : [("description", Json.string d)].lookup "description" = some (.string d) := rfl
  have hanswer : answer = some "Sets the status to 'open" := by
    rw [show answer = _ from answer_eq model () _ _ _ rfl hfield (by decide)]
    decide
  have henclosed : ¬Enclosed d.toList := by
    have hfirst : d.toList.head? = some 'S' := by decide
    rintro ⟨q, hq, hhead, -⟩
    rw [hfirst] at hhead
    obtain rfl := Option.some.inj hhead
    exact absurd hq (by decide)
  exact ⟨by decide, henclosed, hanswer, by rw [hanswer]; decide⟩

end Narrator

end CodeDigest
