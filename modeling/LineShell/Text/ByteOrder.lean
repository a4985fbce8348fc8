import LineShell.Text.Utf8

/-!
The order of byte strings: byte by byte, and a string before every longer one that it begins.
-/

namespace LineShell

/-- Compares byte strings. -/
def compareBytes : Bytes → Bytes → Ordering
  | [], [] => .eq
  | [], _ :: _ => .lt
  | _ :: _, [] => .gt
  | a :: as, b :: bs => (compare a b).then (compareBytes as bs)

/-- Sorts byte strings. -/
def sortBytes (xs : List Bytes) : List Bytes := xs.mergeSort fun a b => (compareBytes a b).isLE

end LineShell
