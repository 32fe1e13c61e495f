import UrlRouting.Toml.Moment
import UrlRouting.Toml.Number

/-! # Document values

What a document says: texts, numbers, booleans, moments, arrays, and tables. A table is a list of
fields with different names, in the order in which the document introduces them.

* `Value.same_eq_true_iff`: the comparison of two values, down to the last field, decides their
  equality. -/

namespace UrlRouting.Toml

/-- A value of a document. -/
inductive Value where
  | text (s : String)
  | number (n : Number)
  | boolean (b : Bool)
  | moment (m : Moment)
  | array (items : List Value)
  | table (fields : List (String × Value))

namespace Value

instance : Inhabited Value := ⟨.table []⟩

mutual

/-- Whether two values are the same. -/
def same : Value → Value → Bool
  | .text s, .text t => s == t
  | .number m, .number n => m == n
  | .boolean a, .boolean b => a == b
  | .moment l, .moment m => l == m
  | .array as, .array bs => sameItems as bs
  | .table fs, .table gs => sameFields fs gs
  | _, _ => false

/-- Whether two lists hold the same values in the same order. -/
def sameItems : List Value → List Value → Bool
  | [], [] => true
  | a :: as, b :: bs => a.same b && sameItems as bs
  | _, _ => false

/-- Whether two lists of fields have the same names and values in the same order. -/
def sameFields : List (String × Value) → List (String × Value) → Bool
  | [], [] => true
  | (k, a) :: fs, (l, b) :: gs => k == l && a.same b && sameFields fs gs
  | _, _ => false

end

mutual

theorem same_eq_true_iff : ∀ a b : Value, a.same b = true ↔ a = b
  | .array as, b => by cases b <;> simp [same, sameItems_eq_true_iff as]
  | .table fs, b => by cases b <;> simp [same, sameFields_eq_true_iff fs]
  | .text _, b | .number _, b | .boolean _, b | .moment _, b => by cases b <;> simp [same]

theorem sameItems_eq_true_iff : ∀ as bs : List Value, sameItems as bs = true ↔ as = bs
  | [], bs => by cases bs <;> simp [sameItems]
  | a :: as, bs => by
    cases bs <;> simp [sameItems, same_eq_true_iff a, sameItems_eq_true_iff as]

theorem sameFields_eq_true_iff :
    ∀ fs gs : List (String × Value), sameFields fs gs = true ↔ fs = gs
  | [], gs => by cases gs <;> simp [sameFields]
  | (k, a) :: fs, [] => by simp [sameFields]
  | (k, a) :: fs, (l, b) :: gs => by
    simp [sameFields, same_eq_true_iff a, sameFields_eq_true_iff fs]

end

instance : DecidableEq Value := fun a b => decidable_of_iff _ (same_eq_true_iff a b)

/-- The boolean that a value is. -/
def boolean? : Value → Option Bool
  | .boolean b => some b
  | _ => none

end Value

end UrlRouting.Toml
