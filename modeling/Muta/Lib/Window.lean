import Mathlib

/-! A window of items with consecutive indices.

The window ends at index `last` and holds the items of the last
`items.length` indices, so item `i` of the window has index
`last + 1 - items.length + i`. New items enter at the next index; a prefix
leaves when it is confirmed. Both keep the window consecutive, which is the
field that makes an arbitrary list of items unrepresentable.
-/

set_option autoImplicit false

namespace Muta

structure Window (α : Type) (index : α → Nat) where
  last : Nat
  items : List α
  bounded : items.length ≤ last + 1
  consecutive : items.map index = List.range' (last + 1 - items.length) items.length

namespace Window

variable {α : Type} {index : α → Nat}

def empty (last : Nat) : Window α index :=
  ⟨last, [], by simp, by simp⟩

theorem index_getElem (window : Window α index) (i : Nat) (small : i < window.items.length) :
    index window.items[i] = window.last + 1 - window.items.length + i := by
  have same := congrArg (fun indices => indices[i]?) window.consecutive
  simp only [List.getElem?_map, List.getElem?_eq_getElem small, Option.map_some,
    List.getElem?_range' small, Option.some.injEq] at same
  simpa using same

def push (window : Window α index) (item : α) (next : index item = window.last + 1) :
    Window α index where
  last := window.last + 1
  items := window.items ++ [item]
  bounded := by simp only [List.length_append, List.length_singleton]; have := window.bounded; omega
  consecutive := by
    have bounded := window.bounded
    rw [List.map_append, window.consecutive, List.length_append, List.length_singleton,
      List.range'_concat]
    have start : window.last + 1 + 1 - (window.items.length + 1) =
        window.last + 1 - window.items.length := by omega
    simp only [List.map_cons, List.map_nil, next, Nat.one_mul, start]
    congr 2
    omega

def drop (window : Window α index) (count : Nat) : Window α index where
  last := window.last
  items := window.items.drop count
  bounded := by simp only [List.length_drop]; have := window.bounded; omega
  consecutive := by
    have bounded := window.bounded
    rw [List.map_drop, window.consecutive, List.drop_range', List.length_drop]
    by_cases small : count ≤ window.items.length
    · congr 1
      omega
    · -- Everything left the window, so both sides are empty.
      have gone : window.items.length - count = 0 := by omega
      simp [gone]

@[simp] theorem push_last (window : Window α index) (item : α) (next : index item = window.last + 1) :
    (window.push item next).last = window.last + 1 := rfl

@[simp] theorem push_items (window : Window α index) (item : α) (next : index item = window.last + 1) :
    (window.push item next).items = window.items ++ [item] := rfl

@[simp] theorem drop_last (window : Window α index) (count : Nat) :
    (window.drop count).last = window.last := rfl

@[simp] theorem drop_items (window : Window α index) (count : Nat) :
    (window.drop count).items = window.items.drop count := rfl

end Window

end Muta
