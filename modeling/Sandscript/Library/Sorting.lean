/-!
# Sorting

A stable sort by a test that may have effects of its own, such as running a callback.  A short list is sorted by
insertion: each item in turn is compared with those before it, from the last one down, until one is not to come behind
it.  A long list is cut into halves that are sorted apart and merged.  The test is asked whether an item has to stand
before another one that stood before it.
-/

namespace Sandscript.Library.Sorting

variable {m : Type → Type} {α : Type} [Monad m]

/-- Inserts an item into sorted ones, which are given the last first. -/
@[specialize] def insert (before : α → α → m Bool) (a : α) : List α → m (List α)
  | [] => pure [a]
  | b :: rest => do
    if ← before a b then return b :: (← insert before a rest) else return a :: b :: rest

/-- Inserts items one by one into sorted ones, which are given the last first. -/
@[specialize] def insertAll (before : α → α → m Bool) : List α → List α → m (List α)
  | done, [] => pure done.reverse
  | done, a :: rest => do insertAll before (← insert before a done) rest

/-- Merges two sorted lists; of items that may stand in either order those of the first list come first. -/
@[specialize] def merge (before : α → α → m Bool) : List α → List α → m (List α)
  | [], bs => pure bs
  | as, [] => pure as
  | a :: as, b :: bs => do
    if ← before b a then return b :: (← merge before (a :: as) bs) else return a :: (← merge before as (b :: bs))
termination_by as bs => as.length + bs.length

/-- The greatest number of items that are sorted by insertion. -/
def shortest : Nat := 20

@[specialize] def sortFrom (before : α → α → m Bool) : Nat → List α → m (List α)
  | 0, items => insertAll before [] items
  | n + 1, items => do
    if items.length ≤ shortest then insertAll before [] items
    else
      let k := items.length / 2
      let front ← sortFrom before n (items.take k)
      let back ← sortFrom before n (items.drop k)
      merge before front back

@[specialize] def sort (before : α → α → m Bool) (items : List α) : m (List α) :=
  sortFrom before items.length.log2 items

end Sandscript.Library.Sorting
