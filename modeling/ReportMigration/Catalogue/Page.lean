import ReportMigration.Catalogue.Database
/-!
Ordered listings and their pages.

A listing is sorted by a key, rows with equal keys keeping their order; a `Page` is the part of a
listing that starts at an offset and has at most so many rows.
-/
namespace ReportMigration

/-- Sorts by a key, from the least on. -/
def ascending {α β : Type} [LT β] [DecidableLT β] (key : α → β) (rows : List α) : List α :=
  rows.mergeSort fun a b => ¬ key b < key a

/-- Sorts by a key, from the greatest on. -/
def descending {α β : Type} [LT β] [DecidableLT β] (key : α → β) (rows : List α) : List α :=
  rows.mergeSort fun a b => ¬ key a < key b

/-- A part of a listing. -/
structure Page where
  /-- How many rows are left out before it; a negative number leaves out none. -/
  offset : Int
  /-- How many rows it has at most; a negative number sets no bound. -/
  limit : Int

namespace Page

/-- The page of a number, counted from one. -/
def ofNumber (number size : Int) : Page := ⟨(number - 1) * size, size⟩

/-- The rows of a page, whatever the size of its numbers. -/
def rows {α : Type} (p : Page) (xs : List α) : List α :=
  let rest := xs.drop p.offset.toNat
  if p.limit < 0 then rest else rest.take p.limit.toNat

/-- The rows of a page; the database must have room for its numbers. -/
def of {α : Type} (p : Page) (xs : List α) : Except Fault (List α) := do
  storable p.limit
  storable p.offset
  return p.rows xs

end Page

end ReportMigration
