import CodeDigest.Proofs.Text.Splitting
import CodeDigest.Proofs.Toml.Values
import CodeDigest.Toml.Document

/-!
# Documents are read back

A document of tables is read in two steps, and so it is read back in two.  `ReadsTo` says that a
text is read as some statements to its end; there is one lemma for each kind of line that is written
(`readsTo_head`, `readsTo_assign`, `readsTo_newline`), and by them the text of the tables is read as
the heads and assignments that it is made of (`readsTo_tables`).  Carried out one after the other,
these make up the tables again, as long as no name is given twice (`foldlM_statementsOf`).
-/

namespace CodeDigest.Toml

open Json

variable {c : Char} {cs text rest : List Char} {name key : String} {v w : Json} {count : ℕ}
  {assemble : Assemble} {done ss : List Statement} {ms ws : List (String × Json)}

/-! ## Lines -/

/-- A name that stands without quotes. -/
structure IsPlain (name : String) : Prop where
  nonempty : name ≠ ""
  keyChars : ∀ c ∈ name.toList, isKeyChar c = true

lemma isPlain_iff : name ≠ "" ∧ name.toList.all isKeyChar = true ↔ IsPlain name := by
  rw [List.all_eq_true]
  exact ⟨fun h => ⟨h.1, h.2⟩, fun h => ⟨h.nonempty, h.keyChars⟩⟩

instance (name : String) : Decidable (IsPlain name) := decidable_of_iff _ isPlain_iff

lemma IsPlain.exists_cons (h : IsPlain name) :
    ∃ c cs, name.toList = c :: cs ∧ isKeyChar c = true := by
  cases hname : name.toList with
  | nil => exact absurd (String.toList_eq_nil_iff.mp hname) h.nonempty
  | cons c cs => exact ⟨c, cs, rfl, h.keyChars c (hname ▸ List.mem_cons_self)⟩

lemma isSolid_of_isKeyChar (hc : isKeyChar c = true) : IsSolid c :=
  ⟨ne_of_class hc (by decide), ne_of_class hc (by decide), ne_of_class hc (by decide),
    ne_of_class hc (by decide), ne_of_class hc (by decide)⟩

/-- A plain name ends where another character stands. -/
lemma key?_plain (hname : IsPlain name) (hstop : ∀ c ∈ rest.head?, isKeyChar c = false)
    (hdot : (dropBlanks rest).head? ≠ some '.') :
    key? (count + 1) (name.toList ++ rest) = some ([name], dropBlanks rest) := by
  have hpart : keyPart? (name.toList ++ rest) = some (name, rest) := by
    have htake := Text.takeWhile_run hname.keyChars hstop
    have hdrop := Text.dropWhile_run hname.keyChars hstop
    have hname' := String.ofList_toList (s := name)
    obtain ⟨c, cs, hcons, hc⟩ := hname.exists_cons
    rw [hcons, List.cons_append] at htake hdrop ⊢
    rw [hcons] at hname'
    rw [keyPart?, htake, hdrop, List.isEmpty_cons, hname']
    · rfl
    · rintro rest ⟨⟩
      cases hc
    · rintro rest ⟨⟩
      cases hc
  have hblanks : dropBlanks (name.toList ++ rest) = name.toList ++ rest := by
    obtain ⟨c, cs, hcons, hc⟩ := hname.exists_cons
    rw [hcons, List.cons_append, (isSolid_of_isKeyChar hc).dropBlanks_eq]
  simp only [key?, hblanks, hpart, Option.bind_eq_bind, Option.bind_some]
  split
  · next heq => exact absurd (by rw [heq]; rfl) hdot
  · rfl

/-- A text that is read as some statements to its end. -/
def ReadsTo (assemble : Assemble) (cs : List Char) (ss : List Statement) : Prop :=
  ∀ (done : List Statement) (count : ℕ), cs.length < count →
    statementsFrom? assemble done count cs = some (done.reverse ++ ss)

lemma readsTo_nil : ReadsTo assemble [] [] := by
  intro done count hcount
  obtain ⟨count, rfl⟩ := Nat.exists_eq_succ_of_ne_zero (Nat.ne_zero_of_lt hcount)
  rw [List.append_nil]
  rfl

/-- An empty line. -/
lemma readsTo_newline (h : ReadsTo assemble cs ss) : ReadsTo assemble ('\n' :: cs) ss := by
  intro done count hcount
  obtain ⟨count, rfl⟩ := Nat.exists_eq_succ_of_ne_zero (Nat.ne_zero_of_lt hcount)
  have hread := h done count (Nat.lt_of_succ_lt_succ hcount)
  obtain ⟨count, rfl⟩ := Nat.exists_eq_succ_of_ne_zero
    (Nat.ne_zero_of_lt (Nat.lt_of_succ_lt_succ hcount))
  cases cs with
  | nil => exact hread
  | cons c cs => exact hread

/-- A line that starts with a solid character holds a statement. -/
lemma readsTo_statement {line : List Char} {s : Statement} (hc : IsSolid c)
    (hline : c = '[' ∧ head? (line ++ '\n' :: rest) = some (s, '\n' :: rest) ∨
      c ≠ '[' ∧ assignment? assemble (c :: (line ++ '\n' :: rest)) = some (s, '\n' :: rest))
    (hrest : ReadsTo assemble rest ss) :
    ReadsTo assemble (c :: (line ++ '\n' :: rest)) (s :: ss) := by
  intro done count hcount
  obtain ⟨count, rfl⟩ := Nat.exists_eq_succ_of_ne_zero (Nat.ne_zero_of_lt hcount)
  have hlength : rest.length < count := by
    simp only [List.length_cons, List.length_append] at hcount
    omega
  have hon : statementsFrom? assemble (s :: done) count rest = some (done.reverse ++ s :: ss) := by
    rw [hrest _ _ hlength, List.reverse_cons, List.append_assoc, List.singleton_append]
  have hafter : afterLine? ('\n' :: rest) = some rest := rfl
  have hnot : afterLine? (c :: (line ++ '\n' :: rest)) = none := by
    simp only [afterLine?, hc.dropBlanks_eq, hc.afterComment_eq, hc.afterNewline?_eq]
  rw [statementsFrom?, hnot]
  simp only [hc.dropBlanks_eq]
  rcases hline with ⟨rfl, hread⟩ | ⟨hne, hread⟩
  · simp only [hread, hafter, hon]
  · simp [hne, hread, hafter, hon]

/-- The head of a table. -/
lemma readsTo_head (hname : IsPlain name) (hrest : ReadsTo assemble rest ss) :
    ReadsTo assemble ('[' :: (name.toList ++ [']'] ++ '\n' :: rest)) (.table [name] :: ss) := by
  refine readsTo_statement ⟨by decide, by decide, by decide, by decide, by decide⟩
    (.inl ⟨rfl, ?_⟩) hrest
  have hkey : ∀ count, key? (count + 1) (name.toList ++ ']' :: '\n' :: rest)
      = some ([name], ']' :: '\n' :: rest) := fun count => by
    have hblanks : dropBlanks (']' :: '\n' :: rest) = ']' :: '\n' :: rest :=
      isSolid_bracket.dropBlanks_eq _
    rw [key?_plain hname (by rintro c ⟨⟩; decide) (by rw [hblanks]; simp), hblanks]
  obtain ⟨c, cs, hcons, hc⟩ := hname.exists_cons
  rw [List.append_assoc, List.singleton_append]
  rw [hcons, List.cons_append] at hkey ⊢
  rw [head?, hkey]
  · rfl
  · rintro rest ⟨⟩
    cases hc

/-- A value for a key. -/
lemma readsTo_assign (hkey : IsPlain key) (htext : ReadsAs text v)
    (hrest : ReadsTo assemble rest ss) :
    ReadsTo assemble (key.toList ++ " = ".toList ++ text ++ '\n' :: rest)
      (.assign [key] v :: ss) := by
  obtain ⟨⟨d, ds, rfl, hspace, htab⟩, hvalue⟩ := htext
  have hline : ∀ count, key? (count + 1) (key.toList ++ (" = ".toList ++ d :: ds ++ '\n' :: rest))
      = some ([key], '=' :: ' ' :: (d :: ds ++ '\n' :: rest)) := fun count => by
    have hblanks : dropBlanks (" = ".toList ++ d :: ds ++ '\n' :: rest)
        = '=' :: ' ' :: (d :: ds ++ '\n' :: rest) := rfl
    rw [key?_plain hkey (by rintro c ⟨⟩; decide) (by rw [hblanks]; simp), hblanks]
  have hblanks : dropBlanks (' ' :: (d :: ds ++ '\n' :: rest)) = d :: ds ++ '\n' :: rest := by
    simp [dropBlanks, hspace, htab]
  have hread : assignment? assemble (key.toList ++ (" = ".toList ++ d :: ds ++ '\n' :: rest))
      = some (.assign [key] v, '\n' :: rest) := by
    simp only [assignment?, hline, hblanks, nestingLimit]
    rw [hvalue]
    · rfl
    · simp only [List.length_append, List.length_cons]
      omega
  obtain ⟨c, cs, hcons, hc⟩ := hkey.exists_cons
  rw [hcons] at hread ⊢
  have hsplit : c :: cs ++ " = ".toList ++ d :: ds ++ '\n' :: rest
      = c :: (cs ++ " = ".toList ++ d :: ds ++ '\n' :: rest) := rfl
  rw [hsplit]
  refine readsTo_statement (isSolid_of_isKeyChar hc) (.inr ⟨ne_of_class hc (by decide), ?_⟩) hrest
  rw [← hread]
  simp

/-! ## Tables -/

/-- Members, and those that are read back for them: a member without a text is left out, and any
other has what its text is read as. -/
inductive ReadBack : List (String × Json) → List (String × Json) → Prop
  | nil : ReadBack [] []
  | left_out {key : String} {v : Json} {ms ws : List (String × Json)}
      (unwritten : settingText? v = none) (on : ReadBack ms ws) : ReadBack ((key, v) :: ms) ws
  | read {key : String} {v w : Json} {text : List Char} {ms ws : List (String × Json)}
      (plain : IsPlain key) (written : settingText? v = some text) (reads : ReadsAs text w)
      (on : ReadBack ms ws) : ReadBack ((key, v) :: ms) ((key, w) :: ws)

namespace ReadBack

lemma string (hkey : IsPlain key) (s : String) (h : ReadBack ms ws) :
    ReadBack ((key, .string s) :: ms) ((key, .string s) :: ws) :=
  .read hkey rfl (readsAs_quoted s) h

lemma bool (hkey : IsPlain key) (b : Bool) (h : ReadBack ms ws) :
    ReadBack ((key, .bool b) :: ms) ((key, .bool b) :: ws) :=
  .read hkey rfl (readsAs_bool b) h

lemma nat {n : ℕ} (hkey : IsPlain key) (hn : n < 0x8000000000000000) (h : ReadBack ms ws) :
    ReadBack ((key, Json.nat n) :: ms) ((key, Json.nat n) :: ws) :=
  .read hkey rfl (readsAs_nat hn) h

lemma strings (hkey : IsPlain key) (xs : List String) (h : ReadBack ms ws) :
    ReadBack ((key, Json.strings xs) :: ms) ((key, Json.strings xs) :: ws) := by
  refine .read hkey ?_ (readsAs_listText xs) h
  have hxs : (xs.map Json.string).filterMap Json.string? = xs := by
    simp [List.filterMap_map, Function.comp_def, Json.string?]
  rw [Json.strings, settingText?, hxs]

/-- A text that is missing is left out. -/
lemma option (hkey : IsPlain key) (s : Option String) (h : ReadBack ms ws) :
    ReadBack ((key, stringOrNull s) :: ms)
      ((s.map fun s => (key, Json.string s)).toList ++ ws) := by
  cases s with
  | none => exact .left_out rfl h
  | some s => exact .string hkey s h

lemma double {x : Float} (hkey : IsPlain key) (hx : DoubleReadsBack x) (h : ReadBack ms ws) :
    ReadBack ((key, Json.double x) :: ms) ((key, Json.double x) :: ws) :=
  .read hkey rfl (readsAs_word (isWordChar_floatText _) hx) h

/-- A number of single precision comes back in double precision. -/
lemma single {x : Float32} {y : Float} (hkey : IsPlain key)
    (hx : scalar? (floatText (.ofSingle x)).toList = some (Json.double y)) (h : ReadBack ms ws) :
    ReadBack ((key, .number (.single x)) :: ms) ((key, Json.double y) :: ws) :=
  .read hkey rfl (readsAs_word (isWordChar_floatText _) hx) h

end ReadBack

/-- A table with the one that is read back for it. -/
structure TableBack (t b : String × List (String × Json)) : Prop where
  name_eq : b.1 = t.1
  plain : IsPlain t.1
  members : ReadBack t.2 b.2

/-- The statements of a table. -/
def statementsOf (t : String × List (String × Json)) : List Statement :=
  .table [t.1] :: t.2.map fun m => .assign [m.1] m.2

lemma readsTo_members (h : ReadBack ms ws) (hrest : ReadsTo assemble rest ss) :
    ReadsTo assemble (ms.flatMap (fun m => settingLine m.1 m.2) ++ rest)
      (ws.map (fun m => .assign [m.1] m.2) ++ ss) := by
  induction h with
  | nil => exact hrest
  | left_out unwritten _ ih => simpa [settingLine, unwritten] using ih
  | read plain written reads _ ih =>
      simpa [settingLine, written] using readsTo_assign plain reads ih

lemma toList_tableText (name : String) (ms : List (String × Json)) :
    (tableText name ms).toList
      = '[' :: (name.toList ++ [']'] ++ '\n' :: ms.flatMap fun m => settingLine m.1 m.2) := by
  simp [tableText]

variable {t b : String × List (String × Json)} {ts bs : List (String × List (String × Json))}

lemma readsTo_table (h : TableBack t b) (hrest : ReadsTo assemble rest ss) :
    ReadsTo assemble ((tableText t.1 t.2).toList ++ rest) (statementsOf b ++ ss) := by
  have hmembers := readsTo_head h.plain (readsTo_members h.members hrest)
  rw [toList_tableText, statementsOf, h.name_eq]
  simpa using hmembers

/-- Tables with an empty line between them. -/
lemma readsTo_tables (h : List.Forall₂ TableBack ts bs) :
    ReadsTo assemble (joined "\n" (ts.map fun t => tableText t.1 t.2)).toList
      (bs.flatMap statementsOf) := by
  induction h with
  | nil => exact readsTo_nil
  | @cons t b ts bs htable htables ih =>
      cases htables with
      | nil => simpa [joined] using readsTo_table htable readsTo_nil
      | cons hnext htables =>
          rw [List.map_cons, List.map_cons, joined_cons_cons, String.toList_append,
            String.toList_append, List.append_assoc]
          exact readsTo_table htable (readsTo_newline ih)

/-! ## Carrying them out -/

variable {path : List String} {entries front inner : Entries} {f : Option Item → Option Item}
  {item : Item}

lemma alter_of_new (h : key ∉ entries.map Prod.fst) :
    alter key f entries = (f none).map fun item => entries ++ [(key, item)] := by
  induction entries with
  | nil => rfl
  | cons e entries ih =>
      obtain ⟨k, x⟩ := e
      obtain ⟨hk, hentries⟩ := List.ne_and_not_mem_of_not_mem_cons h
      rw [alter, if_neg (by simpa using hk.symm), ih hentries, Option.map_map]
      rfl

lemma alter_last (h : key ∉ front.map Prod.fst) : alter key f (front ++ [(key, item)])
    = (f (some item)).map fun item => front ++ [(key, item)] := by
  induction front with
  | nil => simp [alter]
  | cons e front ih =>
      obtain ⟨k, x⟩ := e
      obtain ⟨hk, hfront⟩ := List.ne_and_not_mem_of_not_mem_cons h
      rw [List.cons_append, alter, if_neg (by simpa using hk.symm), ih hfront, Option.map_map]
      rfl

/-- A head with a new name opens a table at the end. -/
lemma perform_table (h : name ∉ entries.map Prod.fst) :
    perform (path, entries) (.table [name])
      = some ([name], entries ++ [(name, .table .head [])]) := by
  change (alter name openTable entries).map _ = _
  rw [alter_of_new h]
  rfl

/-- A value for a new key comes into the open table. -/
lemma perform_assign (hname : name ∉ front.map Prod.fst) (hkey : key ∉ inner.map Prod.fst) :
    perform ([name], front ++ [(name, .table .head inner)]) (.assign [key] v)
      = some ([name], front ++ [(name, .table .head (inner ++ [(key, .value v)]))]) := by
  have hassign : assign [key] v inner = some (inner ++ [(key, .value v)]) :=
    alter_of_new hkey
  rw [perform, within, alter_last hname]
  simp [within, hassign]

lemma foldlM_assign (hname : name ∉ front.map Prod.fst)
    (hkeys : (inner.map Prod.fst ++ ws.map Prod.fst).Nodup) :
    (ws.map fun m => Statement.assign [m.1] m.2).foldlM perform
        ([name], front ++ [(name, .table .head inner)])
      = some ([name],
          front ++ [(name, .table .head (inner ++ ws.map fun m => (m.1, .value m.2)))]) := by
  induction ws generalizing inner with
  | nil => simp
  | cons m ws ih =>
      obtain ⟨k, v⟩ := m
      have hnew : k ∉ inner.map Prod.fst := fun hk =>
        (List.nodup_append.mp hkeys).2.2 k hk k (by simp) rfl
      have hrest : ((inner ++ [(k, Item.value v)]).map Prod.fst ++ ws.map Prod.fst).Nodup := by
        simpa using hkeys
      rw [List.map_cons, List.foldlM_cons, perform_assign hname hnew]
      change List.foldlM _ _ _ = _
      rw [ih hrest]
      simp

/-- The tables that heads and assignments make up. -/
lemma foldlM_statementsOf (hnames : (front.map Prod.fst ++ bs.map Prod.fst).Nodup)
    (hkeys : ∀ b ∈ bs, (b.2.map Prod.fst).Nodup) :
    ∃ path', (bs.flatMap statementsOf).foldlM perform (path, front)
      = some (path', front ++ bs.map fun b =>
          (b.1, .table .head (b.2.map fun m => (m.1, .value m.2)))) := by
  induction bs generalizing front path with
  | nil => exact ⟨path, by simp⟩
  | cons b bs ih =>
      obtain ⟨name, ws⟩ := b
      obtain ⟨hws, hkeys⟩ := List.forall_mem_cons.mp hkeys
      have hnew : name ∉ front.map Prod.fst := fun hk =>
        (List.nodup_append.mp hnames).2.2 name hk name (by simp) rfl
      have hrest : ((front ++ [(name, Item.table .head (ws.map fun m => (m.1, .value m.2)))]).map
          Prod.fst ++ bs.map Prod.fst).Nodup := by
        simpa using hnames
      obtain ⟨path', hfold⟩ := @ih [name] _ hrest hkeys
      refine ⟨path', ?_⟩
      rw [List.flatMap_cons, List.foldlM_append, statementsOf, List.foldlM_cons, perform_table hnew]
      change (List.foldlM _ _ _ >>= _) = _
      rw [foldlM_assign hnew (by simpa using hws)]
      exact hfold.trans (by simp)

lemma membersOf_values (ws : List (String × Json)) :
    membersOf (ws.map fun m => (m.1, .value m.2)) = ws := by
  induction ws with
  | nil => rfl
  | cons m ws ih => rw [List.map_cons, membersOf, ih, Item.toJson]

lemma membersOf_tables (bs : List (String × List (String × Json))) :
    membersOf (bs.map fun b => (b.1, .table .head (b.2.map fun m => (m.1, .value m.2))))
      = bs.map fun b => (b.1, .object b.2) := by
  induction bs with
  | nil => rfl
  | cons b bs ih => rw [List.map_cons, List.map_cons, membersOf, ih, Item.toJson, membersOf_values]

/-- A document of tables. -/
lemma document_tables (ts : List (String × List (String × Json))) :
    document (.object (ts.map fun t => (t.1, .object t.2)))
      = joined "\n" (ts.map fun t => tableText t.1 t.2) := by
  simp [document, List.filterMap_map]

/-- **A document that has been written is read**, if no name is given twice. -/
theorem ofString?_document (h : List.Forall₂ TableBack ts bs) (hnames : (bs.map Prod.fst).Nodup)
    (hkeys : ∀ b ∈ bs, (b.2.map Prod.fst).Nodup) :
    ofString? (document (.object (ts.map fun t => (t.1, .object t.2))))
      = some (.object (bs.map fun b => (b.1, .object b.2))) := by
  have hmark : (joined "\n" (ts.map fun t => tableText t.1 t.2)).toList.head?
      ≠ some (Char.ofNat 0xFEFF) := by
    rcases ts with _ | ⟨t, _ | ⟨u, ts⟩⟩
    · decide
    · simp [joined, toList_tableText]
    · simp [joined_cons_cons, toList_tableText]
  have hread : statements? inlineTable? (joined "\n" (ts.map fun t => tableText t.1 t.2))
      = some (bs.flatMap statementsOf) := by
    rw [statements?, if_neg (by simpa using hmark)]
    exact readsTo_tables h [] _ (Nat.lt_succ_self _)
  obtain ⟨path, hfold⟩ := @foldlM_statementsOf bs [] [] (by simpa using hnames) hkeys
  rw [List.nil_append] at hfold
  rw [document_tables, ofString?, hread]
  simp only [Option.bind_eq_bind, Option.bind_some, hfold, membersOf_tables]
  rfl

end CodeDigest.Toml
