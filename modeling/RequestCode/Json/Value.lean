import RequestCode.Decimal.Double
import RequestCode.OrderedMap

/-!
# JSON values

Numbers keep their kind: an integer that fits in 64 bits stays one, everything else is a double.
The members of an object keep their order.
-/

namespace RequestCode

inductive Number where
  | integer (n : Int)
  | real (x : Decimal.Double)
  deriving DecidableEq

inductive Json where
  | null
  | bool (b : Bool)
  | number (n : Number)
  | string (s : String)
  | array (items : List Json)
  | object (members : List (String × Json))

namespace Json

mutual

/-- Equality of values; members are compared in order. -/
def same : Json → Json → Bool
  | null, null => true
  | bool a, bool b => a = b
  | number a, number b => a = b
  | string a, string b => a = b
  | array a, array b => sameItems a b
  | object a, object b => sameMembers a b
  | _, _ => false

def sameItems : List Json → List Json → Bool
  | [], [] => true
  | a :: as, b :: bs => same a b && sameItems as bs
  | _, _ => false

def sameMembers : List (String × Json) → List (String × Json) → Bool
  | [], [] => true
  | (k, a) :: as, (l, b) :: bs => k = l && same a b && sameMembers as bs
  | _, _ => false

end

mutual

theorem eq_of_same : ∀ {a b : Json}, same a b = true → a = b
  | .null, b, h => by cases b <;> simp_all [same]
  | .bool x, b, h => by cases b <;> simp_all [same]
  | .number x, b, h => by cases b <;> simp_all [same]
  | .string x, b, h => by cases b <;> simp_all [same]
  | .array x, b, h => by
    cases b with
    | array y => exact congrArg _ (eq_of_sameItems (by simpa [same] using h))
    | _ => simp [same] at h
  | .object x, b, h => by
    cases b with
    | object y => exact congrArg _ (eq_of_sameMembers (by simpa [same] using h))
    | _ => simp [same] at h

theorem eq_of_sameItems : ∀ {a b : List Json}, sameItems a b = true → a = b
  | [], b, h => by cases b <;> simp_all [sameItems]
  | x :: xs, [], h => by simp [sameItems] at h
  | x :: xs, y :: ys, h => by
    simp only [sameItems, Bool.and_eq_true] at h
    rw [eq_of_same h.1, eq_of_sameItems h.2]

theorem eq_of_sameMembers : ∀ {a b : List (String × Json)}, sameMembers a b = true → a = b
  | [], b, h => by cases b <;> simp_all [sameMembers]
  | (k, x) :: xs, [], h => by simp [sameMembers] at h
  | (k, x) :: xs, (l, y) :: ys, h => by
    simp only [sameMembers, Bool.and_eq_true, decide_eq_true_eq] at h
    rw [h.1.1, eq_of_same h.1.2, eq_of_sameMembers h.2]

end

mutual

theorem same_self : ∀ a : Json, same a a = true
  | .null => rfl
  | .bool _ => by simp [same]
  | .number _ => by simp [same]
  | .string _ => by simp [same]
  | .array x => by simpa [same] using sameItems_self x
  | .object x => by simpa [same] using sameMembers_self x

theorem sameItems_self : ∀ a : List Json, sameItems a a = true
  | [] => rfl
  | x :: xs => by simp [sameItems, same_self x, sameItems_self xs]

theorem sameMembers_self : ∀ a : List (String × Json), sameMembers a a = true
  | [] => rfl
  | (k, x) :: xs => by simp [sameMembers, same_self x, sameMembers_self xs]

end

instance : DecidableEq Json := fun a b =>
  decidable_of_iff (same a b = true) ⟨eq_of_same, fun h => h ▸ same_self a⟩

instance : Inhabited Json := ⟨null⟩

/-- The member of that name, if the value is an object that has one. -/
def member? (v : Json) (name : String) : Option Json :=
  match v with
  | object members => lookupEntry name members
  | _ => none

def text? : Json → Option String
  | string s => some s
  | _ => none

/-- The kind of a value, as messages name it. -/
def kind : Json → String
  | null => "null"
  | bool _ => "boolean"
  | number _ => "number"
  | string _ => "string"
  | array _ => "array"
  | object _ => "object"

end Json

end RequestCode
