import TaskLedger.Tally.Bucket
import TaskLedger.Tally.Store

/-!
# The counters of a batch

The records of a batch are counted category by category: a category is known by its key, and its
bucket holds the counters of exactly its records.

* `Aggregation.observe` counts one record, `Aggregation.ofRecords` a whole batch;
* `Aggregation.entries` lists the counters that are not zero under the names `category.counter`;
* `Aggregation.emit` writes them to a store, up to the first one that the store refuses.
-/

namespace TaskLedger

/-- The buckets of the categories of some records of one kind, by key. -/
structure Aggregation (k : Kind) where
  groups : Std.TreeMap String Bucket

namespace Aggregation

variable {k : Kind}

/-- Without any record there is no category. -/
def empty : Aggregation k := ⟨∅⟩

/-- The bucket of a category, if it has records. -/
def get? (a : Aggregation k) (category : String) : Option Bucket :=
  a.groups[category]?

/-- Counts one more record. -/
def observe (a : Aggregation k) (r : Record k) : Aggregation k :=
  ⟨a.groups.insert r.key (((a.get? r.key).getD (Bucket.zero (.of k))).add (.of k) r)⟩

/-- Counts the records of a batch in order. -/
def ofRecords (records : List (Record k)) : Aggregation k :=
  records.foldl observe empty

/-- The number of categories. -/
def size (a : Aggregation k) : Nat :=
  a.groups.size

/-- The categories with their buckets, in the order of the keys. -/
def toList (a : Aggregation k) : List (String × Bucket) :=
  a.groups.toList

/-- The value of a counter by name, if there is a counter of that name and the category has
records. -/
def value? (a : Aggregation k) (category counter : String) : Option Int := do
  let slot ← (Scheme.of k).names.findIdx? (· == counter)
  (← a.get? category).values[slot]?

/-- The name under which a counter of a category is written. -/
def counterName (category counter : String) : String :=
  category ++ "." ++ counter

/-- The counters of a bucket that are not zero, under the names they are written with. -/
def bucketEntries (k : Kind) (category : String) (b : Bucket) : List (String × Int) :=
  (List.zip (Scheme.of k).names b.values).filterMap fun (counter, value) =>
    if value = 0 then none else some (counterName category counter, value)

/-- All counters that are not zero, category by category. -/
def entries (a : Aggregation k) : List (String × Int) :=
  a.toList.flatMap fun (category, b) => bucketEntries k category b

/-- Writes every counter that is not zero to a store, up to the first one that is refused. -/
def emit (a : Aggregation k) (store : Store) : Store :=
  store.addAll a.entries

/-- The categories with a next run, in the order of the keys. -/
def nextRuns (a : Aggregation k) : List (String × Instant) :=
  a.toList.filterMap fun (category, b) => b.next.map fun t => (category, t)

theorem get?_empty (category : String) : (empty : Aggregation k).get? category = none := by
  simp [empty, get?]

theorem get?_observe (a : Aggregation k) (r : Record k) (category : String) :
    (a.observe r).get? category =
      if r.key = category then
        some (((a.get? r.key).getD (Bucket.zero (.of k))).add (.of k) r)
      else a.get? category := by
  simp only [observe, get?, Std.TreeMap.getElem?_insert, Std.compare_eq_iff_eq]

theorem ofRecords_append_singleton (records : List (Record k)) (r : Record k) :
    ofRecords (records ++ [r]) = (ofRecords records).observe r := by
  simp [ofRecords, List.foldl_append]

end Aggregation

end TaskLedger
