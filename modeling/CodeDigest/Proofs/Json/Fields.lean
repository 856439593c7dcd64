import Mathlib.Data.List.Basic
import CodeDigest.Json.Record

/-!
# Reading fields that have been written

How the readers of `Json.Record` take fields from the members of an object, and that values of each
kind are read as they are written.  A record is read back when its reader looks for the members that
its writer has put there; with these lemmas `simp` finds out.
-/

namespace CodeDigest.Json

variable {α β γ : Type}

/-! ## Fields

What follows a field is under a `match`, so that `simp` looks at it once the field has been read. -/

namespace RecordReader

@[simp] lemma pure_apply (a : α) (source : FieldSource) :
    (Pure.pure a : RecordReader α) source = some (a, source) := rfl

@[simp] lemma bind_assoc (r : RecordReader α) (k : α → RecordReader β) (l : β → RecordReader γ) :
    r >>= k >>= l = r >>= fun a => k a >>= l := by
  funext source
  exact Option.bind_assoc (r source) _ _

@[simp] lemma pure_bind (a : α) (k : α → RecordReader β) : Pure.pure a >>= k = k a := rfl

end RecordReader

/-- The member is the first one, or is looked for behind it. -/
lemma lookup_cons (name key : String) (v : α) (ms : List (String × α)) :
    ((key, v) :: ms).lookup name = if name = key then some v else ms.lookup name := by
  rw [List.lookup_cons]
  rcases eq_or_ne name key with rfl | hne
  · simp
  · rw [if_neg hne, beq_eq_false_iff_ne.mpr hne]

section Named

variable (name : String) (read : Json → Option α) (ms : List (String × Json))
  (k : α → RecordReader β)

@[simp] lemma field_named : (field name read >>= k) (.named ms)
    = match (ms.lookup name).bind read with
      | some a => k a (.named ms)
      | none => none := by
  change ((field name read) (.named ms)).bind _ = _
  rw [field, FieldSource.next]
  cases ms.lookup name with
  | none => rfl
  | some v => cases h : read v <;> simp [h]

@[simp] lemma fieldOr_named (default : α) : (fieldOr name read default >>= k) (.named ms)
    = match ((ms.lookup name).map read).getD (some default) with
      | some a => k a (.named ms)
      | none => none := by
  change ((fieldOr name read default) (.named ms)).bind _ = _
  rw [fieldOr, FieldSource.next]
  cases ms.lookup name with
  | none => rfl
  | some v => cases h : read v <;> simp [h]

@[simp] lemma option_named (k : Option α → RecordReader β) :
    (option name read >>= k) (.named ms)
      = match readNullable read ((ms.lookup name).getD .null) with
        | some a => k a (.named ms)
        | none => none := by
  change ((option name read) (.named ms)).bind _ = _
  simp only [option, FieldSource.next]
  cases ms.lookup name with
  | none => rfl
  | some v => cases h : readNullable read v <;> simp [h]

@[simp] lemma optionOr_named (k : Option α → RecordReader β) :
    (optionOr name read none >>= k) (.named ms)
      = match readNullable read ((ms.lookup name).getD .null) with
        | some a => k a (.named ms)
        | none => none := by
  have hread : ((ms.lookup name).map (readNullable read)).getD (some none)
      = readNullable read ((ms.lookup name).getD .null) := by
    cases ms.lookup name <;> rfl
  rw [optionOr, fieldOr_named, hread]
  cases readNullable read ((ms.lookup name).getD .null) <;> rfl

end Named

/-! ## Values -/

@[simp] lemma readString_string (s : String) : readString (.string s) = some s := rfl

@[simp] lemma readDouble_double (x : Float) : readDouble (double x) = some x := rfl

lemma readNat_nat {n : Nat} (h : n < 0x10000000000000000) : readNat (nat n) = some n := by
  simp [readNat, nat, readNatBelow.eq_def, h]

@[simp] lemma readNullable_string (s : String) :
    readNullable readString (.string s) = some (some s) := rfl

@[simp] lemma readNullable_stringOrNull (s : Option String) :
    readNullable readString (stringOrNull s) = some s := by
  cases s <;> rfl

/-- A list is read back when its elements are. -/
lemma readList_map {read : Json → Option α} {write : α → Json} (h : ∀ a, read (write a) = some a)
    (xs : List α) : readList read (.array (xs.map write)) = some xs := by
  induction xs with
  | nil => rfl
  | cons x xs ih =>
      simp only [readList, List.map_cons, List.mapM_cons, h] at ih ⊢
      rw [ih]
      rfl

@[simp] lemma readStrings_strings (xs : List String) : readStrings (strings xs) = some xs :=
  readList_map readString_string xs

/-- A table is read back when its entries are and its keys are in order. -/
lemma readTable_map {read : Json → Option α} {write : α → Json} {entries : List (String × α)}
    (h : ∀ e ∈ entries, read (write e.2) = some e.2)
    (hkeys : (entries.map Prod.fst).Pairwise (· < ·)) :
    readTable read (.object (entries.map fun e => (e.1, write e.2))) = some entries := by
  have hentries : (entries.map fun e => (e.1, write e.2)).mapM (readEntry read) = some entries := by
    clear hkeys
    induction entries with
    | nil => rfl
    | cons e entries ih =>
        rw [List.map_cons, List.mapM_cons, ih fun d hd => h d (List.mem_cons_of_mem e hd),
          readEntry, h e List.mem_cons_self]
        rfl
  have hsorted : entries.Pairwise fun a b => decide (a.1 ≤ b.1) = true :=
    (List.pairwise_map.mp hkeys).imp fun hlt => decide_eq_true (Std.le_of_lt hlt)
  rw [readTable, hentries, Option.map_some, List.mergeSort_of_pairwise hsorted]

end CodeDigest.Json
