import CodeDigest.Provider.Exchange
import CodeDigest.Proofs.Json.Shapes
import CodeDigest.Proofs.Narration.Answers
import CodeDigest.Proofs.Reply.Truncation

/-!
# What a model has said does not depend on its service

Three services answer in shapes of their own.  `Carries` says of each which values carry a model's
text, and `Provider.agree_on_text` that a provider of any service makes the same of it: the value in
the text, or a failure of the exchange when the text has none.

* A choice, some blocks and a response are read for the text that they carry
  (`ofChoices?_of_carries`, `ofBlocks?_of_carries`, `ofResponse?_of_carries`).  For blocks this is
  an induction on how the text is cut into them (`exists_texts`), so the cut does not matter.
* Of the text of an answer only what is wanted is read.  That carries the text as well
  (`Carries.pick`), so the rest of the answer may say what it likes.
* One service takes a blank text for none (`keptText`).  There is nothing in it to be found either
  (`extract_of_blank`), which is why the others fail on it as well.
-/

namespace CodeDigest

open Json

variable {service : Service} {p : Provider} {a : HttpAnswer} {s prompt : String} {schema v : Json}

/-! ## Values that carry a text -/

namespace ModelText

/-- The member is missing or null, or it is a value of some kind. -/
def MayHave (ms : List (String × Json)) (key : String) (kind : Json → Prop) : Prop :=
  ∀ v, ms.lookup key = some v → v = .null ∨ kind v

/-- A number of tokens. -/
def IsCount (v : Json) : Prop := ∃ n < Nat.pow 2 32, v = nat n

/-- The numbers of tokens under the names that a service has for them. -/
def IsUsage (input output : String) (v : Json) : Prop :=
  ∃ ms, v = .object ms ∧ (∃ m, ms.lookup input = some m ∧ IsCount m) ∧
    ∃ n, ms.lookup output = some n ∧ IsCount n

/-- A choice with a text, or with none. -/
def IsChoice (text : Option String) (v : Json) : Prop :=
  ∃ ms message, v = .object ms ∧ ms.lookup "message" = some (.object message) ∧
    (message.lookup "content").getD .null = stringOrNull text

/-- Blocks that a text is cut into.  Blocks of other kinds and blocks without a text may stand
between its pieces; where a block of another kind has a text, it is not part of what the model has
said. -/
inductive Blocks : List Json → String → Prop
  | nil : Blocks [] ""
  | piece {ms : List (String × Json)} {bs : List Json} {piece rest : String}
      (kind : ms.lookup "type" = some (.string "text"))
      (text : ms.lookup "text" = some (.string piece)) (h : Blocks bs rest) :
      Blocks (.object ms :: bs) (piece ++ rest)
  | textless {ms : List (String × Json)} {bs : List Json} {rest : String}
      (kind : ms.lookup "type" = some (.string "text"))
      (text : (ms.lookup "text").getD .null = .null) (h : Blocks bs rest) :
      Blocks (.object ms :: bs) rest
  | other {ms : List (String × Json)} {bs : List Json} {rest kind : String}
      (kind_eq : ms.lookup "type" = some (.string kind)) (ne : kind ≠ "text")
      (text : MayHave ms "text" fun v => ∃ t, v = .string t) (h : Blocks bs rest) :
      Blocks (.object ms :: bs) rest

/-- The answers of a service that carry a text: the first of some choices has it, it is cut into
blocks, or it is the response. -/
def Carries : Service → Json → String → Prop
  | .openai, v, s => ∃ ms first others, v = .object ms ∧
      ms.lookup "choices" = some (.array (first :: others)) ∧ IsChoice (some s) first ∧
      (∀ c ∈ others, ∃ text, IsChoice text c) ∧
      MayHave ms "usage" (IsUsage "prompt_tokens" "completion_tokens")
  | .anthropic, v, s => ∃ ms bs, v = .object ms ∧ ms.lookup "content" = some (.array bs) ∧
      Blocks bs s ∧ MayHave ms "usage" (IsUsage "input_tokens" "output_tokens")
  | .ollama, v, s => ∃ ms, v = .object ms ∧ ms.lookup "response" = some (.string s) ∧
      MayHave ms "prompt_eval_count" IsCount ∧ MayHave ms "eval_count" IsCount

/-! ## Reading them -/

variable {ms : List (String × Json)} {key input output : String} {kind : Json → Prop}
  {text : Option String}

lemma readNullable_of_ne {α : Type} {read : Json → Option α} {r : α} (hne : v ≠ .null)
    (h : read v = some r) : readNullable read v = some (some r) := by
  rw [readNullable.eq_def]
  split
  · exact absurd rfl hne
  · rw [h, Option.map_some]

/-- A member that need not be there is read when values of its kind are. -/
lemma MayHave.read {α : Type} {read : Json → Option α} (h : MayHave ms key kind)
    (hread : ∀ v, kind v → v ≠ .null ∧ ∃ r, read v = some r) :
    ∃ r, readNullable read ((ms.lookup key).getD .null) = some r := by
  cases hv : ms.lookup key with
  | none => exact ⟨none, rfl⟩
  | some v =>
      rcases h v hv with rfl | hkind
      · exact ⟨none, rfl⟩
      · obtain ⟨hne, r, hr⟩ := hread v hkind
        exact ⟨some r, readNullable_of_ne hne hr⟩

lemma IsCount.read (h : IsCount v) : v ≠ .null ∧ ∃ n, readNatBelow 32 v = some n := by
  obtain ⟨n, hn, rfl⟩ := h
  exact ⟨by rintro ⟨⟩, n, by simp [nat, readNatBelow.eq_def]; omega⟩

lemma IsUsage.read (h : IsUsage input output v) :
    v ≠ .null ∧ ∃ u, readUsage input output v = some u := by
  obtain ⟨ms, rfl, ⟨m, hinput, hm⟩, n, houtput, hn⟩ := h
  obtain ⟨-, i, hi⟩ := hm.read
  obtain ⟨-, o, ho⟩ := hn.read
  exact ⟨by rintro ⟨⟩, ⟨i, o⟩, by simp [readUsage, readRecord, hinput, houtput, hi, ho]⟩

lemma IsChoice.read (h : IsChoice text v) : readChoice v = some text := by
  obtain ⟨ms, message, rfl, hmessage, hcontent⟩ := h
  have hread : readRecord (option "content" readString) (.object message) = some text := by
    have hnull := readNullable_stringOrNull text
    rw [← hcontent] at hnull
    cases hlookup : message.lookup "content" with
    | none =>
        rw [hlookup] at hnull
        obtain rfl : none = text := Option.some.inj hnull
        simp [readRecord, option, FieldSource.next, hlookup]
    | some v =>
        rw [hlookup] at hnull
        simp only [Option.getD_some] at hnull
        simp [readRecord, option, FieldSource.next, hlookup, hnull]
  simp [readChoice, readRecord, field, FieldSource.next, hmessage] at hread ⊢
  exact hread

/-- What a block is read for. -/
lemma readBlock_object {kind : String} (hkind : ms.lookup "type" = some (.string kind))
    (htext : readNullable readString ((ms.lookup "text").getD .null) = some text) :
    readBlock (.object ms) = some (if kind = "text" then text.getD "" else "") := by
  simp [readBlock, readRecord, hkind, htext]

/-- The texts that blocks are read for are, one behind the other, the text that they carry. -/
lemma exists_texts {bs : List Json} (h : Blocks bs s) :
    ∃ texts, readList readBlock (.array bs) = some texts ∧ String.join texts = s := by
  have hcons : ∀ {b : Json} {bs : List Json} {t rest : String}, readBlock b = some t →
      (∃ texts, readList readBlock (.array bs) = some texts ∧ String.join texts = rest) →
      ∃ texts, readList readBlock (.array (b :: bs)) = some texts ∧
        String.join texts = t ++ rest := by
    rintro b bs t rest hb ⟨texts, htexts, rfl⟩
    refine ⟨t :: texts, ?_, by rw [String.join_cons]⟩
    rw [readList] at htexts
    rw [readList, List.mapM_cons, hb, htexts]
    rfl
  induction h with
  | nil => exact ⟨[], rfl, rfl⟩
  | piece kind text h ih =>
      refine hcons ?_ ih
      rw [readBlock_object kind (by rw [text]; rfl), if_pos rfl, Option.getD_some]
  | @textless ms bs rest kind text h ih =>
      rw [← String.empty_append (s := rest)]
      refine hcons ?_ ih
      rw [readBlock_object kind (by rw [text]; rfl), if_pos rfl, Option.getD_none]
  | @other ms bs rest kind kind_eq ne text h ih =>
      have hstring : ∀ v : Json, (∃ t, v = .string t) → v ≠ .null ∧ ∃ t, readString v = some t := by
        rintro _ ⟨t, rfl⟩
        exact ⟨by rintro ⟨⟩, t, rfl⟩
      obtain ⟨t, ht⟩ := text.read hstring
      rw [← String.empty_append (s := rest)]
      refine hcons ?_ ih
      rw [readBlock_object kind_eq ht, if_neg ne]

/-- The first choice counts, whatever the others are. -/
lemma ofChoices?_of_carries (h : Carries .openai v s) : ∃ u, ofChoices? v = some ⟨some s, u⟩ := by
  obtain ⟨ms, first, others, rfl, hchoices, hfirst, hothers, husage⟩ := h
  obtain ⟨u, hu⟩ := husage.read fun v hv => hv.read
  have hlist : ∃ texts, readList readChoice (.array others) = some texts := by
    clear hchoices
    induction others with
    | nil => exact ⟨[], rfl⟩
    | cons c others ih =>
        obtain ⟨text, htext⟩ := hothers c List.mem_cons_self
        obtain ⟨texts, htexts⟩ := ih fun d hd => hothers d (List.mem_cons_of_mem c hd)
        refine ⟨text :: texts, ?_⟩
        rw [readList] at htexts
        rw [readList, List.mapM_cons, htext.read, htexts]
        rfl
  obtain ⟨texts, htexts⟩ := hlist
  have hread : readList readChoice (.array (first :: others)) = some (some s :: texts) := by
    rw [readList] at htexts
    rw [readList, List.mapM_cons, hfirst.read, htexts]
    rfl
  exact ⟨u.getD noUsage, by simp [ofChoices?, readRecord, hchoices, hread, hu]⟩

/-- However a text is cut into blocks, it is read as a whole; a blank one counts as none. -/
lemma ofBlocks?_of_carries (h : Carries .anthropic v s) :
    ∃ u, ofBlocks? v = some ⟨if (trimmed s).isEmpty then none else some s, u⟩ := by
  obtain ⟨ms, bs, rfl, hcontent, hblocks, husage⟩ := h
  obtain ⟨u, hu⟩ := husage.read fun v hv => hv.read
  obtain ⟨texts, htexts, rfl⟩ := exists_texts hblocks
  exact ⟨u.getD noUsage, by simp [ofBlocks?, readRecord, hcontent, htexts, hu]⟩

lemma ofResponse?_of_carries (h : Carries .ollama v s) :
    ∃ u, ofResponse? v = some ⟨some s, u⟩ := by
  obtain ⟨ms, rfl, hresponse, hinput, houtput⟩ := h
  obtain ⟨i, hi⟩ := hinput.read fun v hv => hv.read
  obtain ⟨o, ho⟩ := houtput.read fun v hv => hv.read
  exact ⟨⟨i.getD 0, o.getD 0⟩, by simp [ofResponse?, readRecord, hresponse, hi, ho]⟩

/-- What is kept of a text that an answer carries: one service takes a blank text for none. -/
def keptText (service : Service) (s : String) : Option String :=
  if service = .anthropic ∧ (trimmed s).isEmpty = true then none else some s

/-- An answer is read for the text that it carries. -/
lemma ofBody?_of_carries (h : Carries service v s) :
    ∃ u, ofBody? service v = some ⟨keptText service s, u⟩ := by
  cases service with
  | openai => simpa [keptText, ofBody?] using ofChoices?_of_carries h
  | anthropic => simpa [keptText, ofBody?] using ofBlocks?_of_carries h
  | ollama => simpa [keptText, ofBody?] using ofResponse?_of_carries h

/-! ## Reading them from a text

What is wanted of an answer carries the same text, so it does not matter that the rest of it is not
looked at. -/

lemma pick_null (shape : Shape) : shape.pick .null = some .null := by
  simp [Shape.pick]

lemma pick_string (s : String) : Shape.scalar.pick (.string s) = some (.string s) := by
  simp [Shape.pick, Shape.isWanted]

lemma IsCount.pick (h : IsCount v) : Shape.scalar.pick v = some v := by
  obtain ⟨n, -, rfl⟩ := h
  simp [nat, Shape.pick, Shape.isWanted]

lemma pick_stringOrNull (text : Option String) :
    Shape.scalar.pick (stringOrNull text) = some (stringOrNull text) := by
  cases text with
  | none => exact pick_null _
  | some s => exact pick_string s

/-- A member that need not be there is kept as it is when it is no container. -/
lemma MayHave.pick_scalar (h : MayHave ms key kind)
    (hkind : ∀ v, kind v → Shape.scalar.pick v = some v) :
    ∀ v, ms.lookup key = some v → Shape.scalar.pick v = some v := by
  intro v hv
  rcases h v hv with rfl | hk
  · exact pick_null _
  · exact hkind v hk

lemma IsUsage.pick (h : IsUsage input output v) (hkeys : v.DistinctKeys) :
    ∃ w, (usageShape input output).pick v = some w ∧ IsUsage input output w := by
  obtain ⟨ms, rfl, ⟨m, hinput, hm⟩, n, houtput, hn⟩ := h
  have hscalar : ∀ name ∈ [input, output], ∀ v, ms.lookup name = some v →
      Shape.scalar.pick v = some v := by
    rintro name hname v hv
    rcases List.mem_pair.mp hname with rfl | rfl
    · obtain rfl := Option.some.inj (hinput.symm.trans hv)
      exact hm.pick
    · obtain rfl := Option.some.inj (houtput.symm.trans hv)
      exact hn.pick
  obtain ⟨ws, hws, hlookup⟩ := exists_pick_scalars hkeys.keys hscalar
  exact ⟨_, hws, ws, rfl, ⟨m, by rw [hlookup input (by simp), hinput], hm⟩, n,
    by rw [hlookup output (by simp), houtput], hn⟩

lemma IsChoice.pick (h : IsChoice text v) (hkeys : v.DistinctKeys) :
    ∃ w, choiceShape.pick v = some w ∧ IsChoice text w := by
  obtain ⟨ms, message, rfl, hmessage, hcontent⟩ := h
  have hscalar : ∀ name ∈ ["content"], ∀ v, message.lookup name = some v →
      Shape.scalar.pick v = some v := by
    intro name hname v hv
    obtain rfl := List.mem_singleton.mp hname
    rw [hv, Option.getD_some] at hcontent
    rw [hcontent]
    exact pick_stringOrNull text
  obtain ⟨ws, hws, hlookup⟩ := exists_pick_scalars (hkeys.member hmessage).keys hscalar
  have hfields : ∀ f ∈ [("message", Shape.scalars ["content"])], ∀ v, ms.lookup f.1 = some v →
      ∃ w, f.2.pick v = some w := by
    intro f hf v hv
    obtain rfl := List.mem_singleton.mp hf
    obtain rfl := Option.some.inj (hmessage.symm.trans hv)
    exact ⟨_, hws⟩
  obtain ⟨us, hus, hmessages⟩ := exists_pick_record hkeys.keys hfields
  refine ⟨_, hus, us, ws, rfl, ?_, by rw [hlookup "content" (by simp), hcontent]⟩
  rw [hmessages "message" _ rfl, hmessage]
  exact hws

lemma pick_block {kind : String} (hkeys : (Json.object ms).DistinctKeys)
    (hkind : ms.lookup "type" = some (.string kind))
    (htext : ∀ v, ms.lookup "text" = some v → Shape.scalar.pick v = some v) :
    ∃ ws, blockShape.pick (.object ms) = some (.object ws) ∧
      ws.lookup "type" = ms.lookup "type" ∧ ws.lookup "text" = ms.lookup "text" := by
  have hscalar : ∀ name ∈ ["type", "text"], ∀ v, ms.lookup name = some v →
      Shape.scalar.pick v = some v := by
    intro name hname v hv
    rcases List.mem_pair.mp hname with rfl | rfl
    · obtain rfl := Option.some.inj (hkind.symm.trans hv)
      exact pick_string kind
    · exact htext v hv
  obtain ⟨ws, hws, hlookup⟩ := exists_pick_scalars hkeys.keys hscalar
  exact ⟨ws, hws, hlookup "type" (by simp), hlookup "text" (by simp)⟩

/-- What is wanted of some blocks is cut out of the same text. -/
lemma Blocks.pick {bs : List Json} (h : Blocks bs s) (hkeys : ∀ b ∈ bs, b.DistinctKeys) :
    ∃ cs, pickElements [] blockShape bs = some cs ∧ Blocks cs s := by
  induction h with
  | nil => exact ⟨[], by simp [pickElements], .nil⟩
  | piece kind text h ih =>
      obtain ⟨hb, hbs⟩ := List.forall_mem_cons.mp hkeys
      obtain ⟨ws, hws, htype, htext⟩ := pick_block hb kind fun v hv => by
        obtain rfl := Option.some.inj (text.symm.trans hv)
        exact pick_string _
      obtain ⟨cs, hcs, hblocks⟩ := ih hbs
      exact ⟨.object ws :: cs, pickElements_cons hws hcs,
        .piece (htype.trans kind) (htext.trans text) hblocks⟩
  | textless kind text h ih =>
      obtain ⟨hb, hbs⟩ := List.forall_mem_cons.mp hkeys
      obtain ⟨ws, hws, htype, htext⟩ := pick_block hb kind fun v hv => by
        rw [hv, Option.getD_some] at text
        rw [text]
        exact pick_null _
      obtain ⟨cs, hcs, hblocks⟩ := ih hbs
      exact ⟨.object ws :: cs, pickElements_cons hws hcs,
        .textless (htype.trans kind) (by rw [htext, text]) hblocks⟩
  | other kind_eq ne text h ih =>
      obtain ⟨hb, hbs⟩ := List.forall_mem_cons.mp hkeys
      obtain ⟨ws, hws, htype, htext⟩ := pick_block hb kind_eq (text.pick_scalar fun v hv => by
        obtain ⟨t, rfl⟩ := hv
        exact pick_string t)
      obtain ⟨cs, hcs, hblocks⟩ := ih hbs
      exact ⟨.object ws :: cs, pickElements_cons hws hcs,
        .other (htype.trans kind_eq) ne (by rw [MayHave, htext]; exact text) hblocks⟩

/-- What is wanted of an answer that says its text in one member and may say the numbers of
tokens. -/
lemma pick_answer {main : String} {shape : Shape} {w : Json}
    (hkeys : (Json.object ms).DistinctKeys) (hmain : ms.lookup main = some v)
    (hw : shape.pick v = some w) (hne : "usage" ≠ main)
    (husage : MayHave ms "usage" (IsUsage input output)) :
    ∃ ws, (Shape.record [(main, shape), ("usage", usageShape input output)]).pick (.object ms)
        = some (.object ws) ∧
      ws.lookup main = some w ∧ MayHave ws "usage" (IsUsage input output) := by
  have hcounts : ∀ u, ms.lookup "usage" = some u →
      ∃ w, (usageShape input output).pick u = some w ∧ (w = .null ∨ IsUsage input output w) := by
    intro u hu
    rcases husage u hu with rfl | hcounts
    · exact ⟨.null, pick_null _, .inl rfl⟩
    · obtain ⟨w, hw, hcounts⟩ := hcounts.pick (hkeys.member hu)
      exact ⟨w, hw, .inr hcounts⟩
  have hfields : ∀ f ∈ [(main, shape), ("usage", usageShape input output)], ∀ v,
      ms.lookup f.1 = some v → ∃ w, f.2.pick v = some w := by
    intro f hf u hu
    rcases List.mem_pair.mp hf with rfl | rfl
    · obtain rfl := Option.some.inj (hmain.symm.trans hu)
      exact ⟨w, hw⟩
    · obtain ⟨w, hw, -⟩ := hcounts u hu
      exact ⟨w, hw⟩
  obtain ⟨ws, hws, hlookup⟩ := exists_pick_record hkeys.keys hfields
  refine ⟨ws, hws, ?_, fun w hw => ?_⟩
  · rw [hlookup main shape (by rw [lookup_cons, if_pos rfl]), hmain]
    exact hw
  · rw [hlookup "usage" (usageShape input output) (by rw [lookup_cons, if_neg hne]; rfl)] at hw
    obtain ⟨u, hu, hpick⟩ := Option.bind_eq_some_iff.mp hw
    obtain ⟨w', hw', hcounts⟩ := hcounts u hu
    obtain rfl := Option.some.inj (hpick.symm.trans hw')
    exact hcounts

/-- What is wanted of an answer carries the text that the answer carries. -/
lemma Carries.pick (h : Carries service v s) (hkeys : v.DistinctKeys) :
    ∃ w, (bodyShape service).pick v = some w ∧ Carries service w s := by
  cases service with
  | openai =>
      obtain ⟨ms, first, others, rfl, hchoices, hfirst, hothers, husage⟩ := h
      have hlist := hkeys.member hchoices
      obtain ⟨w, hw, hfirst⟩ := hfirst.pick (hlist.element List.mem_cons_self)
      have hpicks : ∀ c ∈ others, ∃ w, choiceShape.pick c = some w ∧ ∃ text, IsChoice text w := by
        intro c hc
        obtain ⟨text, htext⟩ := hothers c hc
        obtain ⟨w, hw, hchoice⟩ := htext.pick (hlist.element (List.mem_cons_of_mem first hc))
        exact ⟨w, hw, text, hchoice⟩
      obtain ⟨ws, hws, hothers⟩ := exists_pickElements hpicks
      obtain ⟨us, hus, hmain, husage⟩ :=
        pick_answer hkeys hchoices (pick_list (pickElements_cons hw hws)) (by decide) husage
      exact ⟨_, hus, us, w, ws, rfl, hmain, hfirst, hothers, husage⟩
  | anthropic =>
      obtain ⟨ms, bs, rfl, hcontent, hblocks, husage⟩ := h
      obtain ⟨cs, hcs, hblocks⟩ := hblocks.pick fun b hb => (hkeys.member hcontent).element hb
      obtain ⟨us, hus, hmain, husage⟩ :=
        pick_answer hkeys hcontent (pick_list hcs) (by decide) husage
      exact ⟨_, hus, us, cs, rfl, hmain, hblocks, husage⟩
  | ollama =>
      obtain ⟨ms, rfl, hresponse, hinput, houtput⟩ := h
      have hscalar : ∀ name ∈ ["response", "prompt_eval_count", "eval_count"], ∀ v,
          ms.lookup name = some v → Shape.scalar.pick v = some v := by
        intro name hname v hv
        simp only [List.mem_cons, List.not_mem_nil, or_false] at hname
        rcases hname with rfl | rfl | rfl
        · obtain rfl := Option.some.inj (hresponse.symm.trans hv)
          exact pick_string s
        · exact hinput.pick_scalar (fun _ h => h.pick) v hv
        · exact houtput.pick_scalar (fun _ h => h.pick) v hv
      obtain ⟨ws, hws, hlookup⟩ := exists_pick_scalars hkeys.keys hscalar
      refine ⟨_, hws, ws, rfl, (hlookup "response" (by simp)).trans hresponse, ?_, ?_⟩
      · rw [MayHave, hlookup "prompt_eval_count" (by simp)]
        exact hinput
      · rw [MayHave, hlookup "eval_count" (by simp)]
        exact houtput

end ModelText

/-! ## Asking -/

namespace Reply

/-- What is quoted of a text in which nothing is found. -/
def quotation (s : String) : String := String.ofList ((clean s.toList).take previewLength)

/-- What is found in a text is a value, or else the text is quoted in a failure of the exchange. -/
lemma extract_cases (s : String) :
    (∃ v, extract s = .ok v) ∨ extract s = .error (.exchange (.notJson (quotation s))) := by
  unfold extract extractCleaned
  split
  · exact .inl ⟨_, rfl⟩
  split
  · exact .inl ⟨_, rfl⟩
  split
  · exact .inl ⟨_, rfl⟩
  · exact .inr rfl

/-- Nothing is found in a blank text. -/
lemma extract_of_blank (h : (trimmed s).isEmpty = true) (v : Json) : extract s ≠ .ok v := by
  have htrim : Text.trim s.toList = [] := by simpa [trimmed] using h
  have hclean : clean s.toList = [] := by
    rw [clean, unwrap, htrim]
    rfl
  rw [extract, hclean]
  intro hv
  cases hv

end Reply

/-- The text is a JSON text in which no object has a key twice, and this is its value. -/
def Json.Spells (text : String) (v : Json) : Prop :=
  ∃ d : Document, d.text = text.toList ∧ d.root.DistinctKeys ∧ d.root.value = v

/-- What is read of a text under a shape is what is wanted of its value. -/
lemma Json.Spells.readShape? {text : String} (h : Spells text v) (shape : Shape) :
    Json.readShape? shape text = shape.pick v ∧ v.DistinctKeys := by
  obtain ⟨d, htext, hkeys, rfl⟩ := h
  rw [← String.ofList_toList (s := text), ← htext]
  exact ⟨readShape?_text d hkeys shape, hkeys.value⟩

namespace Provider

/-- What is to be made of a model's text: the value in it, or a failure of the exchange when there
is none. -/
def Yields (s : String) (result : Except Failure ModelReply) : Prop :=
  (∃ content usage, Reply.extract s = .ok content ∧ result = .ok ⟨content, usage⟩) ∨
    (∃ failure, Reply.extract s = .error failure) ∧ ∃ fault, result = .error (.exchange fault)

/-- A blank text that counts as none makes no difference. -/
lemma yields_readText (service : Service) (s : String) (u : TokenUsage) :
    Yields s (readText service ⟨ModelText.keptText service s, u⟩) := by
  rcases Reply.extract_cases s with ⟨content, hcontent⟩ | hfault
  · have hkept : ModelText.keptText service s = some s :=
      if_neg fun h => Reply.extract_of_blank h.2 content hcontent
    exact .inl ⟨content, u, hcontent, by simp [readText, hkept, hcontent, Except.map]⟩
  · refine .inr ⟨⟨_, hfault⟩, ?_⟩
    unfold ModelText.keptText
    split_ifs
    · exact ⟨noText service, rfl⟩
    · exact ⟨.notJson (Reply.quotation s), by simp [readText, hfault, Except.map]⟩

/-- An answer that carries a text is read for what is in the text, whatever its shape. -/
lemma readAnswer_of_carries (hstatus : a.status = 200) (hbody : Spells a.body v)
    (hcarries : ModelText.Carries service v s) :
    ∃ u, readAnswer service a = readText service ⟨ModelText.keptText service s, u⟩ := by
  have htext : a.text = a.body := by simp [HttpAnswer.text, hstatus]
  obtain ⟨hread, hkeys⟩ := hbody.readShape? (ModelText.bodyShape service)
  obtain ⟨w, hw, hcarries⟩ := hcarries.pick hkeys
  obtain ⟨u, hu⟩ := ModelText.ofBody?_of_carries hcarries
  have hof : ModelText.ofText? service a.body = some ⟨ModelText.keptText service s, u⟩ := by
    rw [ModelText.ofText?, hread, hw, Option.bind_some, hu]
  exact ⟨u, by simp [readAnswer, HttpAnswer.isSuccess, hstatus, htext, hof]⟩

/-- A provider asks, and is answered with status 200 and a well-formed body that carries a text. -/
def Answered {σ : Type} (transport : Transport σ) (state : σ) (p : Provider) (prompt : String)
    (schema : Json) (s : String) : Prop :=
  ∃ request a v, p.request? prompt schema = some request ∧
    (transport request state).1 = some a ∧ a.status = 200 ∧ Spells a.body v ∧
    ModelText.Carries p.service v s

lemma Answered.exists_ask_eq {σ : Type} {transport : Transport σ} {state : σ}
    (h : Answered transport state p prompt schema s) :
    ∃ u, (p.ask transport prompt schema state).1
      = readText p.service ⟨ModelText.keptText p.service s, u⟩ := by
  obtain ⟨request, a, v, hrequest, hanswer, hstatus, hbody, hcarries⟩ := h
  have hask : (p.ask transport prompt schema state).1 = readAnswer p.service a := by
    simp only [ask, hrequest, bind_apply, hanswer, pure_apply]
  rw [hask]
  exact readAnswer_of_carries hstatus hbody hcarries

lemma Answered.yields {σ : Type} {transport : Transport σ} {state : σ}
    (h : Answered transport state p prompt schema s) :
    Yields s (p.ask transport prompt schema state).1 := by
  obtain ⟨u, hu⟩ := h.exists_ask_eq
  rw [hu]
  exact yields_readText p.service s u

/-- **Providers agree on what a model has said.**  Whatever is asked and whichever service answers,
in whatever shape and with whatever cut, a text stands for one outcome: everywhere the value that is
extracted from it, or everywhere a failure of the exchange. -/
theorem agree_on_text (s : String) :
    (∃ content, Reply.extract s = .ok content ∧
      ∀ (σ : Type) (transport : Transport σ) (state : σ) (p : Provider) (prompt : String)
        (schema : Json), Answered transport state p prompt schema s →
          ∃ usage, (p.ask transport prompt schema state).1 = .ok ⟨content, usage⟩) ∨
      (∃ failure, Reply.extract s = .error failure) ∧
        ∀ (σ : Type) (transport : Transport σ) (state : σ) (p : Provider) (prompt : String)
          (schema : Json), Answered transport state p prompt schema s →
            ∃ fault, (p.ask transport prompt schema state).1 = .error (.exchange fault) := by
  rcases hs : Reply.extract s with failure | content
  · refine .inr ⟨⟨failure, rfl⟩, fun σ transport state p prompt schema h => ?_⟩
    rcases h.yields with ⟨content, usage, hcontent, -⟩ | ⟨-, hfault⟩
    · rw [hs] at hcontent
      cases hcontent
    · exact hfault
  · refine .inl ⟨content, rfl, fun σ transport state p prompt schema h => ?_⟩
    rcases h.yields with ⟨content', usage, hcontent, hask⟩ | ⟨⟨failure, hfailure⟩, -⟩
    · rw [hs] at hcontent
      obtain rfl := Except.ok.inj hcontent
      exact ⟨usage, hask⟩
    · rw [hs] at hfailure
      cases hfailure

/-! A text that is broken off: with another choice behind it, cut in two with other blocks in
between, and as a response. -/

lemma simpleEscape?_quote : simpleEscape? '"' = some '"' := rfl

/-- A string that is written without escapes, apart from quotation marks. -/
def glyphs (s : String) : List Glyph :=
  s.toList.filterMap fun c =>
    if hquote : c = '"' then some (.short '"' '"' simpleEscape?_quote)
    else if hbackslash : c = '\\' then none
    else if hprintable : 0x20 ≤ c.toNat then some (.plain c hquote hbackslash hprintable)
    else none

/-- An array without blanks. -/
def writtenList (ts : List Tree) : Tree :=
  .array Reply.noGap (ts.map fun t => ⟨Reply.noGap, t, Reply.noGap⟩)

/-- An object without blanks. -/
def writtenTable (ms : List (String × Tree)) : Tree :=
  .object Reply.noGap
    (ms.map fun m => ⟨⟨Reply.noGap, glyphs m.1, Reply.noGap⟩, ⟨Reply.noGap, m.2, Reply.noGap⟩⟩)

/-- A string as it is written. -/
def writtenText (s : String) : Tree := .string (glyphs s)

/-- The body of an answer in which a service says `["ab"`. -/
def brokenOff : Service → Tree
  | .openai =>
    writtenTable
      [("choices", writtenList
        [writtenTable
          [("message", writtenTable
            [("role", writtenText "assistant"), ("content", writtenText "[\"ab\"")])],
         writtenTable [("message", writtenTable [("content", .null)])]]),
       ("usage", .null)]
  | .anthropic =>
    writtenTable
      [("content", writtenList
        [writtenTable [("type", writtenText "text"), ("text", writtenText "[\"a")],
         writtenTable
          [("type", writtenText "tool_use"), ("input", writtenTable [("text", writtenList [])])],
         writtenTable [("type", writtenText "text")],
         writtenTable [("type", writtenText "text"), ("text", writtenText "b\"")]])]
  | .ollama => writtenTable [("response", writtenText "[\"ab\""), ("done", .bool true)]

/-- A provider of a service as it is set up when nothing but a key is given. -/
def standard (service : Service) : Provider where
  service := service
  key := service.keyVariable?.map fun _ => "sk-test"
  endpoint := service.standardEndpoint
  model := service.standardModel
  temperature := 0
  maxTokens := 4000

/-- A server that answers whatever it is asked. -/
def answering (body : Tree) : Transport Unit := fun _ =>
  pure (some ⟨200, String.ofList body.text⟩)

lemma spells_text {t : Tree} (hdepth : t.depth ≤ maxDepth) (hkeys : t.DistinctKeys) :
    Spells (String.ofList t.text) t.value :=
  ⟨⟨Reply.noGap, t, Reply.noGap, hdepth⟩, by simp [Document.text, Reply.noGap], hkeys, rfl⟩

lemma carries_brokenOff (service : Service) :
    ModelText.Carries service (brokenOff service).value "[\"ab\"" := by
  cases service with
  | openai =>
      refine ⟨_, _, _, rfl, rfl, ⟨_, _, rfl, rfl, rfl⟩, ?_, ?_⟩
      · rintro _ (_ | ⟨_, ⟨⟩⟩)
        exact ⟨none, _, _, rfl, rfl, rfl⟩
      · rintro v hv
        obtain rfl : Json.null = v := Option.some.inj hv
        exact .inl rfl
  | anthropic =>
      have hlast : ModelText.Blocks [(writtenTable
          [("type", writtenText "text"), ("text", writtenText "b\"")]).value] ("b\"" ++ "") :=
        .piece rfl rfl .nil
      refine ⟨_, _, rfl, rfl, ?_, by rintro _ ⟨⟩⟩
      change ModelText.Blocks _ ("[\"a" ++ ("b\"" ++ ""))
      exact .piece rfl rfl (.other rfl (by decide : "tool_use" ≠ "text") (by rintro _ ⟨⟩)
        (.textless rfl rfl hlast))
  | ollama => exact ⟨_, rfl, rfl, by rintro _ ⟨⟩, by rintro _ ⟨⟩⟩

lemma answered_brokenOff (service : Service) :
    Answered (answering (brokenOff service)) () (standard service) "What is it?" .null
      "[\"ab\"" := by
  have hrequest : ((standard service).request? "What is it?" .null).isSome = true := by
    cases service <;> decide +kernel
  obtain ⟨request, hrequest⟩ := Option.isSome_iff_exists.mp hrequest
  refine ⟨request, _, _, hrequest, rfl, rfl, spells_text ?_ ?_, carries_brokenOff service⟩
  · cases service <;> decide
  · cases service <;>
      simp only [brokenOff, writtenTable, writtenList, writtenText, List.map_cons, List.map_nil,
        Tree.DistinctKeys, elementsDistinctKeys, membersDistinctKeys, and_true, true_and] <;>
      decide

theorem agree_on_broken_text :
    (∃ usage, ((standard .openai).ask (answering (brokenOff .openai)) "What is it?" .null ()).1
        = .ok ⟨.array [.string "ab"], usage⟩) ∧
      (∃ usage,
        ((standard .anthropic).ask (answering (brokenOff .anthropic)) "What is it?" .null ()).1
          = .ok ⟨.array [.string "ab"], usage⟩) ∧
      ∃ usage, ((standard .ollama).ask (answering (brokenOff .ollama)) "What is it?" .null ()).1
        = .ok ⟨.array [.string "ab"], usage⟩ := by
  have hextract : Reply.extract "[\"ab\"" = .ok (.array [.string "ab"]) := by rfl
  rcases agree_on_text "[\"ab\"" with ⟨content, hcontent, h⟩ | ⟨⟨failure, hfailure⟩, -⟩
  · rw [hextract] at hcontent
    obtain rfl := Except.ok.inj hcontent
    exact ⟨h _ _ _ _ _ _ (answered_brokenOff .openai),
      h _ _ _ _ _ _ (answered_brokenOff .anthropic), h _ _ _ _ _ _ (answered_brokenOff .ollama)⟩
  · rw [hextract] at hfailure
    cases hfailure

end Provider

end CodeDigest
