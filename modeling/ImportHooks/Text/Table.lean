import ImportHooks.Text.Hex

namespace ImportHooks.Text

-- Blanks stand between rows, and dots between the hexadecimal numbers of a row. Rows rise
-- in their first number.
abbrev Row := List Nat
abbrev Table := Array Row

structure RowReader where
  rows : Table
  row : Row
  number : Option Nat

def RowReader.endNumber (r : RowReader) : RowReader :=
  { r with row := r.number.toList ++ r.row, number := none }

def RowReader.endRow (r : RowReader) : RowReader :=
  let r := r.endNumber
  if r.row.isEmpty then r else { r with rows := r.rows.push r.row.reverse, row := [] }

def RowReader.feed (r : RowReader) (c : Char) : RowReader :=
  if c = '.' then r.endNumber
  else if isHex c then { r with number := some ((r.number.getD 0) * 16 + hexValue c) }
  else r.endRow

namespace Table

def ofText (text : String) : Table := ((text.toList.foldl RowReader.feed ⟨#[], [], none⟩).endRow).rows

def begins (t : Table) (i : Nat) : Nat := (t[i]?.bind List.head?).getD 0

def countUpTo (t : Table) (n : Nat) : Nat → Nat → Nat → Nat
  | 0, low, _ => low
  | rounds + 1, low, high =>
    if low < high then
      let middle := low + (high - low) / 2
      if t.begins middle ≤ n then countUpTo t n rounds (middle + 1) high else countUpTo t n rounds low middle
    else low

def row? (t : Table) (n : Nat) : Option Row :=
  match countUpTo t n (t.size.log2 + 1) 0 t.size with
  | 0 => none
  | i + 1 => t[i]?

def covers (t : Table) (n : Nat) : Bool :=
  match t.row? n with
  | some [only] => n = only
  | some (_ :: last :: _) => n ≤ last
  | _ => false

end Table

structure NamedTable where
  names : List String
  rows : String

end ImportHooks.Text
