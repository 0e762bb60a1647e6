import TableReport.Analysis.Plan
import TableReport.Reduce.Correlation
import TableReport.Reduce.Distinct
import TableReport.Reduce.Grouping
import TableReport.Reduce.Inspection
import TableReport.Reduce.Selection
import TableReport.Reduce.Statistics
/-!
# What a plan produces
-/
namespace TableReport

/-- What a plan produces from a table. -/
inductive Payload where
  | info (facts : Inspection)
  | rows (rows : List Row)
  | sum (total : Binary64)
  | mean (mean : Option Binary64)
  | stats (statistics : Statistics)
  | statsOfAll (columns : List (String × Statistics))
  | groups (groups : List Group)
  | filter (selection : Selection)
  | unique (values : DistinctValues)
  | duplicates (rows : RepeatedRows)
  | correlation (correlation : Correlation)
deriving DecidableEq

namespace Table

/-- The statistics of each numeric column, in column order. -/
def describeAll (t : Table) : Except ColumnError (List (String × Statistics)) :=
  (t.schema.fields.zipIdx.filter fun (f, _) => f.type.isNumeric).mapM fun (f, i) =>
    (t.describe i).map fun s => (f.name, s)

/-- What a plan produces from a table. The only thing that can go wrong is an integer total out of
range. -/
def execute (t : Table) (limits : Limits) : Plan → Except ColumnError Payload
  | .info => .ok (.info (t.inspect limits.inspected))
  | .rank i n direction => .ok (.rows (t.rank i n direction))
  | .sum i => (t.sum i).map .sum
  | .mean i => (t.mean i).map .mean
  | .stats i => (t.describe i).map .stats
  | .statsOfAll => t.describeAll.map .statsOfAll
  | .groupBy key value => (t.groupSum key value).map .groups
  | .filter p => .ok (.filter (t.select p limits.selected))
  | .unique i => .ok (.unique (t.unique i limits.distinct))
  | .duplicates columns => .ok (.duplicates (t.duplicates columns limits.repeated))
  | .correlate x y => .ok (.correlation (t.correlate x y))

end Table

end TableReport
