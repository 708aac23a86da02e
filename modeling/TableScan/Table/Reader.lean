import TableScan.Table

/-!
Readers: the rows of a table, handed out from either end until none is left. A reader holds the
rows that are still to come, so a copy of it goes its own way and later changes of the table do not
reach it.
-/

namespace TableScan

structure Reader where
  remaining : List Row
deriving DecidableEq

def Table.reader (table : Table) : Reader := ⟨table.rows⟩

namespace Reader

/-- Takes the first remaining row. -/
def next (reader : Reader) : Option Row × Reader :=
  (reader.remaining.head?, ⟨reader.remaining.tail⟩)

/-- Takes the last remaining row. -/
def nextBack (reader : Reader) : Option Row × Reader :=
  (reader.remaining.getLast?, ⟨reader.remaining.dropLast⟩)

/-- The number of rows that are left. -/
def length (reader : Reader) : Nat := reader.remaining.length

/-- Bounds on the number of rows that are left. Both are exact. -/
def sizeHint (reader : Reader) : Nat × Option Nat := (reader.length, some reader.length)

/-- Takes all remaining rows from the front. -/
def rest (reader : Reader) : List Row × Reader := (reader.remaining, ⟨[]⟩)

/-- Takes all remaining rows from the back. -/
def restBack (reader : Reader) : List Row × Reader := (reader.remaining.reverse, ⟨[]⟩)

end Reader

end TableScan
