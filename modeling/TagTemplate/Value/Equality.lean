import TagTemplate.Number.Binary64
import TagTemplate.Value.Basic

/-!
# Equality of values

Numbers are equal when they are nearly equal, lists element by element, maps when they have the
same names with equal values in any order, and objects when they are the same object.
-/

namespace TagTemplate.Value

mutual

/-- The two values are equal. -/
def equal : Value → Value → Bool
  | null, null => true
  | bool a, bool b => a == b
  | number x, number y => Number.nearlyEqual x y
  | string s, string t => s == t
  | list xs, list ys => equalLists xs ys
  | map m, map n => m.size == n.size && includedIn m n
  | host i _ _ _ _, host j _ _ _ _ => i == j
  | document i _, document j _ => i == j
  | _, _ => false

/-- The two lists have equal items at equal places. -/
def equalLists : List Value → List Value → Bool
  | [], [] => true
  | x :: xs, y :: ys => x.equal y && equalLists xs ys
  | _, _ => false

/-- Every entry of the first map has an equal one in the second. -/
def includedIn : OrderedMap Value → OrderedMap Value → Bool
  | ⟨entries⟩, n => entriesIncludedIn entries n

/-- Every entry of the list has an equal one in the map. -/
def entriesIncludedIn : List (String × Value) → OrderedMap Value → Bool
  | [], _ => true
  | (k, v) :: es, n =>
    (match n.get? k with
      | some w => v.equal w
      | none => false) && entriesIncludedIn es n

end

end TagTemplate.Value
