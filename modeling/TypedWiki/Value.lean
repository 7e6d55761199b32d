import TypedWiki.Reference.Document
import TypedWiki.Time.Timestamp

/-!
# Values — what a field can hold

A field holds a value of one of six types; that it holds none is said by `Option Value`.  Values are ordered, first
by type and then within the type, so that candidate values form sorted sets.
-/

namespace TypedWiki

open Time (Timestamp)

/-- A value of a field. -/
inductive Value where
  | bool (b : Bool)
  | int (n : Int64)
  | text (s : String)
  | date (t : Timestamp)
  | list (items : List String)
  | reference (r : DocumentRef)
  deriving DecidableEq

namespace Value

instance : Inhabited Value := ⟨.bool false⟩

/-- The name of the type of a value. -/
def typeName : Value → String
  | bool _ => "bool"
  | int _ => "int"
  | text _ => "text"
  | date _ => "date"
  | list _ => "list"
  | reference _ => "reference"

/-- The truth value, if it is one. -/
def asBool? : Value → Option Bool
  | bool b => some b
  | _ => none

/-- The integer, if it is one. -/
def asInt? : Value → Option Int64
  | int n => some n
  | _ => none

/-- The text, if it is one. -/
def asText? : Value → Option String
  | text s => some s
  | _ => none

/-- The point in time, if it is one. -/
def asDate? : Value → Option Timestamp
  | date t => some t
  | _ => none

/-- The items, if it is a list. -/
def asList? : Value → Option (List String)
  | list items => some items
  | _ => none

/-- The reference, if it is one. -/
def asReference? : Value → Option DocumentRef
  | reference r => some r
  | _ => none

/-- White space as text, or a list with nothing but white space in its items. -/
def isBlank : Value → Bool
  | text s => Text.isBlank s
  | list items => items.all Text.isBlank
  | _ => false

/-- What separates the items of a list written as one text. -/
def listDelimiter : String := "|"

/-- The items of a list as one text. -/
def joinItems (items : List String) : String := Text.join listDelimiter items

/-- The flat text of a value. -/
def rawText : Value → String
  | bool b => if b then "true" else "false"
  | int n => Text.showInt64 n
  | text s => s
  | date t => t.rfc3339 "+00:00"
  | list items => joinItems items
  | reference r => r.text

/-- Blank values count as none. -/
def normalizeBlank (v : Option Value) : Option Value := v.filter fun v => !v.isBlank

/-! ### Order -/

/-- The place of a type in the order of types. -/
def rank : Value → Nat
  | bool _ => 0
  | int _ => 1
  | text _ => 2
  | date _ => 3
  | list _ => 4
  | reference _ => 5

/-- Types first, then the values of one type; lists are compared item by item. -/
def compare : Value → Value → Ordering
  | bool a, bool b => Ord.compare a b
  | int a, int b => Ord.compare a b
  | text a, text b => Ord.compare a b
  | date a, date b => Ord.compare a b
  | list a, list b => Ord.compare a b
  | reference a, reference b => Ord.compare a b
  | a, b => Ord.compare a.rank b.rank

/-- The order compares the types and then each of the views on a value. -/
theorem compare_eq :
    compare = compareLex (compareOn rank) (compareLex (compareOn asBool?) (compareLex (compareOn asInt?)
      (compareLex (compareOn asText?) (compareLex (compareOn asDate?) (compareLex (compareOn asList?)
        (compareOn asReference?)))))) := by
  funext v w
  cases v <;> cases w <;> first | rfl | exact Ordering.then_eq.symm

instance : Std.TransCmp compare := by
  rw [compare_eq]
  infer_instance

instance : Std.LawfulEqCmp compare where
  eq_of_compare {v w} h := by
    cases v <;> cases w <;> first | exact congrArg _ (Std.compare_eq_iff_eq.1 h) | cases h

/-- Puts a value at its place in a sorted list, unless it is there already. -/
def insertSorted (v : Value) : List Value → List Value
  | [] => [v]
  | w :: ws =>
    match compare v w with
    | .lt => v :: w :: ws
    | .eq => w :: ws
    | .gt => w :: insertSorted v ws

/-- The distinct values in increasing order. -/
def sortedSet (vs : List Value) : List Value := vs.foldl (fun acc v => insertSorted v acc) []

/-- Distinct values in increasing order. -/
def IsSorted (vs : List Value) : Prop := vs.Pairwise fun v w => compare v w = .lt

/-- A value before which no other comes. -/
def IsLeast (v : Value) (vs : List Value) : Prop := v ∈ vs ∧ ∀ w ∈ vs, compare v w ≠ .gt

/-! ### Laws -/

/-- A list with an item that is not blank is no blank text when it is joined. -/
theorem isBlank_joinItems {items : List String} (h : (list items).isBlank = false) :
    Text.isBlank (joinItems items) = false := by
  obtain ⟨item, mem, hitem⟩ := List.all_eq_false.1 h
  obtain ⟨c, hc, visible⟩ := List.all_eq_false.1 (Bool.eq_false_iff.2 hitem)
  exact List.all_eq_false.2 ⟨c, Text.toList_subset_join listDelimiter mem hc, visible⟩

theorem normalizeBlank_some (v : Value) : normalizeBlank (some v) = if v.isBlank then none else some v := by
  cases blank : v.isBlank <;> simp [normalizeBlank, Option.filter, blank]

theorem mem_insertSorted {v u : Value} {ws : List Value} : u ∈ insertSorted v ws ↔ u = v ∨ u ∈ ws := by
  induction ws with
  | nil => simp [insertSorted]
  | cons w ws ih =>
    rw [insertSorted]
    split
    · exact List.mem_cons
    · rename_i same
      rw [Std.LawfulEqCmp.compare_eq_iff_eq.1 same]
      simp
    · rw [List.mem_cons, ih, List.mem_cons]
      exact or_left_comm

/-- A value is put where the list stays sorted. -/
theorem isSorted_insertSorted {v : Value} {ws : List Value} (h : IsSorted ws) : IsSorted (insertSorted v ws) := by
  induction ws with
  | nil => exact List.pairwise_singleton _ v
  | cons w ws ih =>
    obtain ⟨hw, hws⟩ := List.pairwise_cons.1 h
    rw [insertSorted]
    split
    · rename_i hlt
      refine List.pairwise_cons.2 ⟨fun u hu => ?_, h⟩
      rcases List.mem_cons.1 hu with rfl | hu
      · exact hlt
      · exact Std.TransCmp.lt_trans hlt (hw u hu)
    · exact h
    · rename_i hgt
      refine List.pairwise_cons.2 ⟨fun u hu => ?_, ih hws⟩
      rcases mem_insertSorted.1 hu with rfl | hu
      · exact Std.OrientedCmp.lt_of_gt hgt
      · exact hw u hu

theorem isSorted_sortedSet (vs : List Value) : IsSorted (sortedSet vs) := by
  have h : ∀ acc, IsSorted acc → IsSorted (vs.foldl (fun acc v => insertSorted v acc) acc) := by
    induction vs with
    | nil => exact fun _ hacc => hacc
    | cons v vs ih => exact fun acc hacc => ih _ (isSorted_insertSorted hacc)
  exact h [] List.Pairwise.nil

/-- Sorting keeps the values. -/
theorem mem_sortedSet {u : Value} {vs : List Value} : u ∈ sortedSet vs ↔ u ∈ vs := by
  have h : ∀ acc, u ∈ vs.foldl (fun acc v => insertSorted v acc) acc ↔ u ∈ acc ∨ u ∈ vs := by
    induction vs with
    | nil => simp
    | cons v vs ih =>
      intro acc
      rw [List.foldl_cons, ih, mem_insertSorted, List.mem_cons, or_comm (a := u = v), or_assoc]
  exact (h []).trans (by simp)

end Value

end TypedWiki
