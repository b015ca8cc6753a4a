import GameBundle.Dictionary
import GameBundle.Decimal.Binary64

/-!
# JSON values

Numbers are integers or binary floating-point values; an object is a dictionary,
or a list of members where the order of the members is the document's own.
-/

namespace GameBundle

/-- A JSON number. Integers are kept exactly. -/
inductive Number where
  | integer (value : Int)
  | real (value : Binary64)
deriving DecidableEq, Repr

inductive Json where
  | null
  | bool (value : Bool)
  | number (value : Number)
  | string (value : String)
  | array (items : List Json)
  | object (members : List (String × Json))
deriving Repr, Inhabited

namespace Json

mutual

/-- Equality test that descends into arrays and objects. -/
def same : Json → Json → Bool
  | .null, .null => true
  | .bool a, .bool b => a == b
  | .number a, .number b => a == b
  | .string a, .string b => a == b
  | .array xs, .array ys => sameItems xs ys
  | .object xs, .object ys => sameMembers xs ys
  | _, _ => false

def sameItems : List Json → List Json → Bool
  | [], [] => true
  | x :: xs, y :: ys => same x y && sameItems xs ys
  | _, _ => false

def sameMembers : List (String × Json) → List (String × Json) → Bool
  | [], [] => true
  | (j, x) :: xs, (k, y) :: ys => j == k && same x y && sameMembers xs ys
  | _, _ => false

end

mutual

theorem same_iff : ∀ x y : Json, same x y = true ↔ x = y
  | .null, y => by cases y <;> simp [same]
  | .bool _, y => by cases y <;> simp [same]
  | .number _, y => by cases y <;> simp [same]
  | .string _, y => by cases y <;> simp [same]
  | .array xs, y => by cases y <;> simp [same, sameItems_iff xs]
  | .object xs, y => by cases y <;> simp [same, sameMembers_iff xs]

theorem sameItems_iff : ∀ xs ys : List Json, sameItems xs ys = true ↔ xs = ys
  | [], ys => by cases ys <;> simp [sameItems]
  | x :: xs, ys => by cases ys <;> simp [sameItems, same_iff x, sameItems_iff xs]

theorem sameMembers_iff :
    ∀ xs ys : List (String × Json), sameMembers xs ys = true ↔ xs = ys
  | [], ys => by cases ys <;> simp [sameMembers]
  | (j, x) :: xs, [] => by simp [sameMembers]
  | (j, x) :: xs, (k, y) :: ys => by
    simp [sameMembers, same_iff x, sameMembers_iff xs]

end

instance : DecidableEq Json := fun x y => decidable_of_iff _ (same_iff x y)

def integer (value : Int) : Json := .number (.integer value)

def natural (value : Nat) : Json := integer value

def list {α : Type} (encode : α → Json) (values : List α) : Json := .array (values.map encode)

def strings (values : List String) : Json := list .string values

/-- The value under a key of an object; anything else has no members. -/
def member? (key : String) : Json → Option Json
  | .object members => Dictionary.find? key members
  | _ => none

def text? : Json → Option String
  | .string value => some value
  | _ => none

def items? : Json → Option (List Json)
  | .array items => some items
  | _ => none

end Json

end GameBundle
