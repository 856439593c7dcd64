import CodeDigest.Json.Basic

/-!
# Equality of values

Whether two values are the same can be decided, part by part; so a text that is read can be compared
with the value that it should stand for.
-/

namespace CodeDigest.Json

deriving instance DecidableEq for Number

mutual

/-- Whether two values are the same. -/
def isSame : Json → Json → Bool
  | .null, .null => true
  | .bool a, .bool b => a == b
  | .number m, .number n => m == n
  | .string s, .string t => s == t
  | .array vs, .array ws => areSame vs ws
  | .object ms, .object ns => haveSame ms ns
  | _, _ => false

/-- Whether two lists have the same elements. -/
def areSame : List Json → List Json → Bool
  | [], [] => true
  | v :: vs, w :: ws => isSame v w && areSame vs ws
  | _, _ => false

/-- Whether two lists have the same members. -/
def haveSame : List (String × Json) → List (String × Json) → Bool
  | [], [] => true
  | (k, v) :: ms, (l, w) :: ns => k == l && isSame v w && haveSame ms ns
  | _, _ => false

end

mutual

theorem isSame_iff (v w : Json) : isSame v w = true ↔ v = w := by
  cases v with
  | array vs => cases w <;> simp [isSame, areSame_iff vs]
  | object ms => cases w <;> simp [isSame, haveSame_iff ms]
  | _ => cases w <;> simp [isSame]

theorem areSame_iff (vs ws : List Json) : areSame vs ws = true ↔ vs = ws := by
  cases vs with
  | nil => cases ws <;> simp [areSame]
  | cons v vs => cases ws <;> simp [areSame, isSame_iff v, areSame_iff vs]

theorem haveSame_iff (ms ns : List (String × Json)) : haveSame ms ns = true ↔ ms = ns := by
  cases ms with
  | nil => cases ns <;> simp [haveSame]
  | cons m ms =>
      obtain ⟨k, v⟩ := m
      cases ns <;> simp [haveSame, isSame_iff v, haveSame_iff ms, Prod.ext_iff]

end

instance : DecidableEq Json := fun v w => decidable_of_iff _ (isSame_iff v w)

end CodeDigest.Json
