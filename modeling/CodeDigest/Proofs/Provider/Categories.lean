import CodeDigest.Proofs.Provider.Agreement
import CodeDigest.Proofs.Text.Lowercase
import CodeDigest.Proofs.Text.Searching

/-!
# Categories of failed exchanges

What the category of a failed exchange depends on.  An answer with a status that is no success is
put into a category by the status, and the words of the server do not matter.  A model's text in
which nothing is found is quoted in the failure, and the failure is put into a category by its
words, which are then the model's.

* The phrases of the first rows do not occur in what the failure says itself, nor across the place
  where the quotation begins (`occursIn_notJson`).  So it depends on the quotation alone whether one
  of these rows applies (`applies_notJson`), and the row for texts that cannot be read decides when
  none does (`phraseCategory_notJson_eq_iff`).
* `Exchange.category_of_failure` says what follows for exchanges: two that fail alike may still be
  put into different categories, and `Exchange.category_of_quotation` has two that are.
-/

namespace CodeDigest

/-! ## Phrases in a quotation -/

/-- The rows of phrases that are tried before the one for texts that cannot be read. -/
def earlierRules : List PhraseRule := phraseRules.takeWhile (·.category != .parseError)

/-- All phrases that a row looks for. -/
def PhraseRule.words (r : PhraseRule) : List String :=
  r.phrases ++ r.pairedPhrase.toList ++ r.companions

/-- A phrase that is not found in the words of a failure, nor where its quotation begins. -/
structure Foreign (word : String) : Prop where
  colon : ':' ∉ word.toList
  head : ∃ c ∈ word.toList.head?, c ≠ ' '
  words : occursIn word "model reply is not valid json" = false

variable {word quotation : String} {rule : PhraseRule}

lemma foreign_of_mem_words (h : rule ∈ earlierRules) (hword : word ∈ rule.words) :
    Foreign word := by
  have hall : (earlierRules.all fun rule => rule.words.all fun word =>
      !word.toList.contains ':' && word.toList.head?.any (· != ' ')
        && !occursIn word "model reply is not valid json") = true := by decide +kernel
  simp only [List.all_eq_true, Bool.and_eq_true, Bool.not_eq_true', List.contains_eq_mem,
    decide_eq_false_iff_not, Option.any_eq_true, bne_iff_ne] at hall
  obtain ⟨⟨hcolon, hhead⟩, hwords⟩ := hall rule h word hword
  exact ⟨hcolon, hhead, hwords⟩

lemma toList_lowercased_notJson (quotation : String) :
    (lowercased (ExchangeFault.notJson quotation).message).toList
      = "model reply is not valid json".toList ++ ':' :: ' ' :: (lowercased quotation).toList := by
  have hall : ("Model reply is not valid JSON:".toList.all (·.toNat < 128)) = true := by
    decide +kernel
  have hascii : ∀ x ∈ "Model reply is not valid JSON:".toList, x.toNat < 128 := by
    simpa only [List.all_eq_true, decide_eq_true_eq] using hall
  have hlower : "Model reply is not valid JSON:".toList.map Char.toLower
      = "model reply is not valid json".toList ++ [':'] := by decide +kernel
  have hblank : "Model reply is not valid JSON: ".toList
      = "Model reply is not valid JSON:".toList ++ [' '] := by decide +kernel
  have hmessage : (ExchangeFault.notJson quotation).message.toList
      = "Model reply is not valid JSON: ".toList ++ quotation.toList := String.toList_append
  have hlist : ∀ s, (lowercased s).toList = Text.lowercase s.toList := fun s => String.toList_ofList
  rw [hlist, hlist, hmessage, hblank, ← List.append_cons, Text.lowercase_append hascii, hlower,
    ← List.append_cons]

/-- A foreign phrase occurs in a failure exactly when it occurs in the quotation. -/
lemma occursIn_notJson (h : Foreign word) (quotation : String) :
    occursIn word (lowercased (ExchangeFault.notJson quotation).message)
      = occursIn word (lowercased quotation) := by
  have hwords : ¬word.toList <:+: "model reply is not valid json".toList := by
    rw [← occursIn_iff, h.words]
    exact Bool.false_ne_true
  have hprefix : ¬word.toList <+: ' ' :: (lowercased quotation).toList := by
    obtain ⟨c, hc, hne⟩ := h.head
    obtain ⟨cs, hcs⟩ := List.head?_eq_some_iff.mp hc
    rw [hcs, List.cons_prefix_cons]
    exact fun hprefix => hne hprefix.1
  rw [Bool.eq_iff_iff, occursIn_iff, occursIn_iff, toList_lowercased_notJson,
    infix_append_cons_iff h.colon, or_iff_right hwords, List.infix_cons_iff, or_iff_right hprefix]

lemma PhraseRule.applies_congr {text text' : String}
    (h : ∀ word ∈ rule.words, occursIn word text = occursIn word text') :
    rule.applies text = rule.applies text' := by
  have hany : ∀ words ⊆ rule.words,
      words.any (occursIn · text) = words.any (occursIn · text') := by
    intro words hwords
    rw [Bool.eq_iff_iff, List.any_eq_true, List.any_eq_true]
    exact exists_congr fun word => and_congr_right fun hword => by rw [h word (hwords hword)]
  have hphrases := hany rule.phrases (by simp [words])
  have hcompanions := hany rule.companions (by simp [words])
  have hpaired : rule.pairedPhrase.any (occursIn · text)
      = rule.pairedPhrase.any (occursIn · text') := by
    cases hword : rule.pairedPhrase with
    | none => rfl
    | some word => exact h word (by simp [words, hword])
  rw [applies, applies, hphrases, hcompanions, hpaired]

lemma applies_notJson (h : rule ∈ earlierRules) (quotation : String) :
    rule.applies (lowercased (ExchangeFault.notJson quotation).message)
      = rule.applies (lowercased quotation) :=
  PhraseRule.applies_congr fun _ hword =>
    occursIn_notJson (foreign_of_mem_words h hword) quotation

/-- A text in which no row finds a phrase before the row for texts that cannot be read is tried. -/
def Quiet (text : String) : Prop := ∀ rule ∈ earlierRules, rule.applies (lowercased text) = false

/-- **A quotation decides** whether its failure is put down as a text that cannot be read. -/
theorem phraseCategory_notJson_eq_iff (quotation : String) :
    phraseCategory (ExchangeFault.notJson quotation).message = .parseError ↔ Quiet quotation := by
  set text := lowercased (ExchangeFault.notJson quotation).message with htext
  obtain ⟨later, hrules⟩ : ∃ later, phraseRules
      = earlierRules ++ ⟨.parseError, ["parse", "json"], none, []⟩ :: later := ⟨_, rfl⟩
  have hjson : occursIn "json" text = true := by
    rw [occursIn_iff, htext, toList_lowercased_notJson]
    exact List.IsInfix.trans (by decide +kernel) (List.prefix_append _ _).isInfix
  have hquiet : Quiet quotation ↔ ∀ rule ∈ earlierRules, ¬rule.applies text = true := by
    refine forall₂_congr fun rule hrule => ?_
    rw [htext, applies_notJson hrule, Bool.not_eq_true]
  rw [hquiet, ← List.find?_eq_none, phraseCategory, ← htext, hrules, List.find?_append]
  cases hfound : earlierRules.find? (·.applies text) with
  | none => simp [PhraseRule.applies, hjson]
  | some rule =>
      have hne : rule.category ≠ .parseError := by
        simpa using List.mem_takeWhile_imp (List.mem_of_find?_eq_some hfound)
      simpa using hne

/-! ## Exchanges -/

/-- A provider that asks for a value, and what carries its request. -/
structure Exchange where
  provider : Provider
  Memory : Type
  transport : Transport Memory
  state : Memory
  prompt : String
  schema : Json

namespace Exchange

variable {x y : Exchange} {status : Nat} {s t : String}

/-- What comes of it. -/
def result (x : Exchange) : Except Failure ModelReply :=
  (x.provider.ask x.transport x.prompt x.schema x.state).1

/-- The category of its failure, if it fails. -/
def category? (x : Exchange) : Option Category :=
  match x.result with
  | .ok _ => none
  | .error failure => some (failure.classified x.provider.service.name).category

/-- It is answered with a status that is no success. -/
def Refused (x : Exchange) (status : Nat) : Prop :=
  ∃ request a, x.provider.request? x.prompt x.schema = some request ∧
    (x.transport request x.state).1 = some a ∧ a.isSuccess = false ∧ a.status = status

/-- It is answered with status 200 and a well-formed body that carries a text, and nothing is found
in the text. -/
def Rejected (x : Exchange) (s : String) : Prop :=
  Provider.Answered x.transport x.state x.provider x.prompt x.schema s ∧
    ∃ failure, Reply.extract s = .error failure

/-- A text that counts as one, and none of its words that are quoted says anything else about its
failure. -/
def Unremarkable (service : Service) (s : String) : Prop :=
  (service = .anthropic → (trimmed s).isEmpty = false) ∧ Quiet (Reply.quotation s)

/-- Of an answer that is no success, the status is all that matters. -/
lemma category?_of_refused (h : x.Refused status) : x.category? = some (statusCategory status) := by
  obtain ⟨request, a, hrequest, hanswer, hsuccess, rfl⟩ := h
  have hresult : x.result = Provider.readAnswer x.provider.service a := by
    simp only [result, Provider.ask, hrequest, bind_apply, hanswer, pure_apply]
  rw [category?, hresult, Provider.readAnswer, hsuccess]
  rfl

/-- A text in which nothing is found is quoted, unless it counts as none. -/
lemma result_of_rejected (h : x.Rejected s) :
    x.result = .error (.exchange
      (if x.provider.service = .anthropic ∧ (trimmed s).isEmpty = true
        then .noTextContent "Anthropic" else .notJson (Reply.quotation s))) := by
  obtain ⟨hanswered, failure, hfailure⟩ := h
  have hextract : Reply.extract s = .error (.exchange (.notJson (Reply.quotation s))) := by
    rcases Reply.extract_cases s with ⟨v, hv⟩ | hextract
    · rw [hfailure] at hv
      cases hv
    · exact hextract
  obtain ⟨u, hu⟩ := hanswered.exists_ask_eq
  rw [result, hu, ModelText.keptText]
  split_ifs with hblank
  · rw [hblank.1]
    rfl
  · simp [Provider.readText, hextract, Except.map]

lemma category?_of_rejected (h : x.Rejected s) :
    ∃ c, x.category? = some c ∧ (c = .parseError ↔ Unremarkable x.provider.service s) := by
  have hphrase : ∀ fault, x.result = .error (.exchange fault) →
      x.category? = some (phraseCategory fault.message) := by
    intro fault hresult
    rw [category?, hresult]
    rfl
  refine ⟨_, hphrase _ (result_of_rejected h), ?_⟩
  by_cases hblank : x.provider.service = .anthropic ∧ (trimmed s).isEmpty = true
  · have hunknown :
        phraseCategory (ExchangeFault.noTextContent "Anthropic").message = .unknown := by
      decide +kernel
    have hremarkable : ¬Unremarkable x.provider.service s := by
      rintro ⟨htext, -⟩
      rw [htext hblank.1] at hblank
      exact Bool.false_ne_true hblank.2
    rw [if_pos hblank, hunknown, iff_false_right hremarkable]
    rintro ⟨⟩
  · have htext : x.provider.service = .anthropic → (trimmed s).isEmpty = false := by
      simpa using hblank
    rw [if_neg hblank, phraseCategory_notJson_eq_iff, Unremarkable, and_iff_right htext]

/-- **The category of a failure.**  Two exchanges that are answered with the same status, which is
no success, fail in the same category, whoever is asked and whatever the servers say.  An exchange
in which nothing is found in the text of the model fails as well, as one with a text that cannot be
read exactly when the text is unremarkable; so two such exchanges need not be put into the same
category, unless both texts are. -/
theorem category_of_failure (x y : Exchange) :
    (∀ status, x.Refused status → y.Refused status →
        ∃ c, x.category? = some c ∧ y.category? = some c) ∧
      (∀ s, x.Rejected s →
        ∃ c, x.category? = some c ∧ (c = .parseError ↔ Unremarkable x.provider.service s)) ∧
      ∀ s t, x.Rejected s → y.Rejected t → Unremarkable x.provider.service s →
        Unremarkable y.provider.service t →
          x.category? = some .parseError ∧ y.category? = some .parseError := by
  refine ⟨?_, ?_, ?_⟩
  · intro status hx hy
    exact ⟨statusCategory status, category?_of_refused hx, category?_of_refused hy⟩
  · intro s hx
    exact category?_of_rejected hx
  · intro s t hx hy hs ht
    obtain ⟨c, hc, hparse⟩ := category?_of_rejected hx
    obtain ⟨d, hd, hparse'⟩ := category?_of_rejected hy
    rw [hc, hd, hparse.mpr hs, hparse'.mpr ht]
    exact ⟨rfl, rfl⟩

/-! Servers that refuse, and models that say what they like. -/

/-- A server with a certain answer for everything. -/
def answered (a : HttpAnswer) : Exchange :=
  ⟨Provider.standard .ollama, Unit, fun _ => pure (some a), (), "What is it?", .null⟩

/-- The body in which a model says something. -/
def spoken (s : String) : Json.Tree :=
  Provider.writtenTable [("response", Provider.writtenText s)]

/-- A model that always says the same. -/
def saying (s : String) : Exchange := answered ⟨200, String.ofList (spoken s).text⟩

lemma isSome_request? (a : HttpAnswer) :
    ((answered a).provider.request? (answered a).prompt (answered a).schema).isSome = true := by
  have hrequest : ((Provider.standard .ollama).request? "What is it?" .null).isSome = true := by
    decide +kernel
  exact hrequest

lemma refused_answered {a : HttpAnswer} (h : a.isSuccess = false) :
    (answered a).Refused a.status := by
  obtain ⟨request, hrequest⟩ := Option.isSome_iff_exists.mp (isSome_request? a)
  exact ⟨request, a, hrequest, rfl, h, rfl⟩

lemma rejected_saying (hwritten : Json.glyphsString (Provider.glyphs s) = s)
    (hread : (Reply.extract s).toOption = none) : (saying s).Rejected s := by
  obtain ⟨request, hrequest⟩ := Option.isSome_iff_exists.mp
    (isSome_request? ⟨200, String.ofList (spoken s).text⟩)
  have hkey : Json.glyphsString (Provider.glyphs "response") = "response" := by decide +kernel
  have hbody : (spoken s).value = .object [("response", .string s)] := by
    simp [spoken, Provider.writtenTable, Provider.writtenText, Json.Tree.value, Json.membersValue,
      Json.putAll, Json.putMember, hkey, hwritten]
  have hspells : Json.Spells (String.ofList (spoken s).text) (spoken s).value := by
    refine Provider.spells_text (show 1 ≤ Json.maxDepth by decide) ?_
    simp [spoken, Provider.writtenTable, Provider.writtenText, Json.Tree.DistinctKeys,
      Json.membersDistinctKeys]
  rw [hbody] at hspells
  refine ⟨⟨request, _, _, hrequest, rfl, rfl, hspells, _, rfl, rfl, ?_, ?_⟩, ?_⟩
  · rintro _ ⟨⟩
  · rintro _ ⟨⟩
  · cases hs : Reply.extract s with
    | error failure => exact ⟨failure, rfl⟩
    | ok v =>
        rw [hs] at hread
        cases hread

/-- What two models say that do not answer, and what two servers say that refuse. -/
theorem category_of_failure_in_other_words :
    ((saying "Done.").category? = some .parseError ∧
        (saying "I cannot help.").category? = some .parseError) ∧
      ∃ c, (answered ⟨429, "Error 401"⟩).category? = some c ∧
        (answered ⟨429, "{}"⟩).category? = some c := by
  have hdone : (saying "Done.").Rejected "Done." := rejected_saying (by decide +kernel) rfl
  have hhelp : (saying "I cannot help.").Rejected "I cannot help." :=
    rejected_saying (by decide +kernel) rfl
  have hquiet : ∀ text, (earlierRules.all fun rule => !rule.applies (lowercased text)) = true →
      Quiet text := by
    simp [Quiet]
  refine ⟨(category_of_failure _ _).2.2 _ _ hdone hhelp ⟨?_, hquiet _ ?_⟩ ⟨?_, hquiet _ ?_⟩,
    (category_of_failure _ _).1 429 (refused_answered rfl) (refused_answered rfl)⟩
  · rintro ⟨⟩
  · decide +kernel
  · rintro ⟨⟩
  · decide +kernel

/-- Two models say different things, nothing is found in what they say, and the failures are put
into different categories.  This is how the failure to find anything in the second text is
classified, whoever has been asked. -/
theorem category_of_quotation :
    (saying "Done.").Rejected "Done." ∧ (saying "Error 401").Rejected "Error 401" ∧
      (saying "Done.").category? = some .parseError ∧
      (saying "Error 401").category? = some .auth ∧
      ∃ failure, Reply.extract "Error 401" = .error failure ∧
        ∀ service : Service, (failure.classified service.name).category = .auth := by
  have hdone : (saying "Done.").Rejected "Done." := rejected_saying (by decide +kernel) rfl
  have herror : (saying "Error 401").Rejected "Error 401" :=
    rejected_saying (by decide +kernel) rfl
  have hextract : Reply.extract "Error 401"
      = .error (.exchange (.notJson (Reply.quotation "Error 401"))) := by rfl
  refine ⟨hdone, herror, ?_, ?_, _, hextract, fun service => ?_⟩
  · rw [category?, result_of_rejected hdone]
    decide +kernel
  · rw [category?, result_of_rejected herror]
    decide +kernel
  · cases service <;> decide +kernel

end Exchange

end CodeDigest
