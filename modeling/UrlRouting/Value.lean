import Std.Data.ExtTreeMap

/-! # Parameter values

The values that travel through a router as parameters: nulls, booleans, numbers, texts, lists, and
objects. A router copies them and never looks inside, so all that is needed of them is to build
them and to compare them.

* `Value.ofFields`: an object from its members in any order; the members are kept in the order of
  their keys, and of two members with one key the later one stays, so that two objects are equal
  exactly when they have the same members.
* `Value.same_eq_true_iff`: the comparison of two values, down to the last member, decides their
  equality. -/

namespace UrlRouting

/-- A parameter value. A decimal is `mantissa / 10 ^ places`. -/
inductive Value where
  | null
  | bool (b : Bool)
  | int (n : Int)
  | decimal (mantissa : Int) (places : Nat)
  | string (s : String)
  | array (items : List Value)
  | object (fields : List (String × Value))
  deriving Inhabited

namespace Value

/-! ### Equality -/

mutual

/-- Whether two values are the same. -/
def same : Value → Value → Bool
  | .null, .null => true
  | .bool a, .bool b => a == b
  | .int a, .int b => a == b
  | .decimal a i, .decimal b j => a == b && i == j
  | .string a, .string b => a == b
  | .array as, .array bs => sameItems as bs
  | .object fs, .object gs => sameFields fs gs
  | _, _ => false

/-- Whether two lists hold the same values in the same order. -/
def sameItems : List Value → List Value → Bool
  | [], [] => true
  | a :: as, b :: bs => a.same b && sameItems as bs
  | _, _ => false

/-- Whether two lists of members have the same keys and values in the same order. -/
def sameFields : List (String × Value) → List (String × Value) → Bool
  | [], [] => true
  | (k, a) :: fs, (l, b) :: gs => k == l && a.same b && sameFields fs gs
  | _, _ => false

end

mutual

theorem same_eq_true_iff : ∀ a b : Value, a.same b = true ↔ a = b
  | .array as, b => by cases b <;> simp [same, sameItems_eq_true_iff as]
  | .object fs, b => by cases b <;> simp [same, sameFields_eq_true_iff fs]
  | .null, b | .bool _, b | .int _, b | .decimal .., b | .string _, b => by cases b <;> simp [same]

theorem sameItems_eq_true_iff : ∀ as bs : List Value, sameItems as bs = true ↔ as = bs
  | [], bs => by cases bs <;> simp [sameItems]
  | a :: as, bs => by
    cases bs <;> simp [sameItems, same_eq_true_iff a, sameItems_eq_true_iff as]

theorem sameFields_eq_true_iff :
    ∀ fs gs : List (String × Value), sameFields fs gs = true ↔ fs = gs
  | [], gs => by cases gs <;> simp [sameFields]
  | (k, a) :: fs, [] => by simp [sameFields]
  | (k, a) :: fs, (l, b) :: gs => by
    simp [sameFields, same_eq_true_iff a, sameFields_eq_true_iff fs]

end

instance : DecidableEq Value := fun a b => decidable_of_iff _ (same_eq_true_iff a b)

/-- The boolean that a value is. -/
def bool? : Value → Option Bool
  | .bool b => some b
  | _ => none

/-! ### Objects -/

/-- The object with the given members: sorted by key, the last of each key. -/
def ofFields (fields : List (String × Value)) : Value :=
  .object (Std.ExtTreeMap.ofList fields compare).toList

end Value

end UrlRouting
