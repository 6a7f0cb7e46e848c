import TaskLedger.Statistics.Run

/-!
# What the statistics of a run have to agree on

Every record that was produced was flushed and counted, and every record that was to be shipped
ended with one of the shipments.
-/

namespace TaskLedger.RunStatistics

/-- Whether all records were flushed. -/
def flushedAll (s : RunStatistics) : Bool :=
  Kind.all.all fun k => (s.flushes.of k).records == s.produced.get k

/-- The sum of the counters of a kind that count all records of a category. -/
def counted (s : RunStatistics) (k : Kind) : Int :=
  (s.picked fun name => (k.name ++ ".").toList.isPrefixOf name
    && ".numAll".toList.isSuffixOf name).foldl (· + ·) 0

/-- Whether all records were counted. -/
def countedAll (s : RunStatistics) : Bool :=
  Kind.all.all fun k => s.counted k == s.produced.get k

/-- Whether all records that were to be shipped ended with a shipment. -/
def shippedAll (s : RunStatistics) : Bool :=
  (s.flushes.of .runner).shipped + (s.flushes.of .croner).shipped
    == s.totals.persistedRecords + s.totals.failedRecords

end TaskLedger.RunStatistics
