import LogSearch.Index.Range
import LogSearch.Json.Parser

/-!
# Tables of index ranges

A `RangeTable` keeps known ranges in the order they were given. `RangeTable.find` selects those
that may hold documents of a window. A table is stored as a list of records; one record that does
not hold together spoils the table.
-/

namespace LogSearch

/-- A source of index ranges for a window. -/
abbrev RangeLookup := Window → Except IndexRangeError (List IndexRange)

/-- Known index ranges. -/
structure RangeTable where
  ranges : List IndexRange

namespace RangeTable

/-- The ranges that may hold documents of a window, in the order of the table. -/
def find (table : RangeTable) (w : Window) : List IndexRange :=
  table.ranges.filter fun range => range.mayContain w

/-- The table as a source of ranges. -/
def lookup (table : RangeTable) : RangeLookup := fun w => .ok (table.find w)

/-- The table that a list of records stores; the first record that fails decides the error. -/
def ofRecords (records : List IndexRecord) : Except IndexRangeError RangeTable :=
  (records.mapM IndexRecord.toRange).map RangeTable.mk

/-- What of a stored table counts: other fields of a record may hold anything. -/
def shape : Shape := .items IndexRecord.shape

/-- The table that a text stores. -/
def ofText (text : String) : Except IndexRangeError RangeTable :=
  match (Json.parseAs? shape text).bind (Json.toList? IndexRecord.ofJson?) with
  | some records => ofRecords records
  | none => .error (.lookup "not a list of index range records")

end RangeTable

end LogSearch
