/-!
A pool of workers. Items are handed out to the workers in turn, and results come in in the order in
which the workers finish; each carries the place of its item, by which the results are put back in
order.
-/
namespace BannedApi.Pool

variable {α β : Type}

/-- The places a worker is given: every `workers`-th one from its own number on. -/
def share (workers count worker : Nat) : List Nat :=
  (List.range count).filter fun i => i % workers = worker

/-- The places in the order in which the results come in when the workers finish one after the
other. No more workers are used than there are items. -/
def order (workers count : Nat) : List Nat :=
  (List.range (min workers count)).flatMap (share (min workers count) count)

/-- The results as they come in, each with the place of its item. -/
def finished (f : α → β) (items : List α) (places : List Nat) : List (Nat × β) :=
  places.filterMap fun i => items[i]?.map fun x => (i, f x)

/-- The results in the order of their places. -/
def collect (count : Nat) (results : List (Nat × β)) : List β :=
  (List.range count).filterMap fun i => results.lookup i

/-- The result of each item, with the results coming in in this order of places. -/
def runInOrder (places : List Nat) (f : α → β) (items : List α) : List β :=
  collect items.length (finished f items places)

/-- The result of each item, worked on by this many workers. -/
def run (workers : Nat) (f : α → β) (items : List α) : List β :=
  runInOrder (order workers items.length) f items

end BannedApi.Pool
