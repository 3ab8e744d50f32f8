namespace Wireform.Toml

/-! # TOML items

The values of a TOML document, and the tables that hold them. A table remembers how it came to be,
because that decides which later lines may add to it. -/

/-- A value without parts. Floats and moments are kept as they are written. -/
inductive Scalar where
  | text (value : String)
  | integer (value : Int)
  | float (spelling : String)
  | truth (value : Bool)
  | moment (spelling : String)
  deriving DecidableEq, Repr, Inhabited

inductive Origin where
  /-- It has a header of its own, or is the document. -/
  | header
  /-- It stands on the way to a header. -/
  | implied
  /-- It stands on the way to a key with dots. -/
  | dotted
  /-- It is written in braces, and complete. -/
  | inline
  deriving DecidableEq, Repr, Inhabited

mutual
inductive Item where
  | scalar (value : Scalar)
  | array (items : List Item)
  | table (table : Table)
  /-- The tables under headers in double brackets. -/
  | tables (list : List Table)

/-- Named items, in the order in which they were added. -/
inductive Table where
  | mk (origin : Origin) (entries : List (String × Item))
end

instance : Inhabited Table := ⟨.mk .header []⟩
instance : Inhabited Item := ⟨.array []⟩

namespace Table

def origin : Table → Origin
  | .mk origin _ => origin

def entries : Table → List (String × Item)
  | .mk _ entries => entries

def empty (origin : Origin) : Table := .mk origin []

variable (table : Table)

def find? (key : String) : Option Item := table.entries.lookup key

/-- Puts an item in the place of the one with this key, or after all others. -/
def insert (key : String) (item : Item) : Table :=
  if table.entries.any (·.1 = key) then
    .mk table.origin (table.entries.map fun entry => if entry.1 = key then (key, item) else entry)
  else .mk table.origin (table.entries ++ [(key, item)])

def erase (key : String) : Table :=
  .mk table.origin (table.entries.filter (·.1 ≠ key))

/-- Changes the table that a path leads to. A table that is missing on the way is added, with this
origin. A path through an array of tables goes on in its last table. Complete tables cannot be
entered, and dotted keys cannot enter a table that has a header. -/
def alterAt {α : Type} (added : Origin) (change : Table → Option (α × Table)) :
    List String → Table → Option (α × Table)
  | [], table => change table
  | key :: rest, table =>
    match table.find? key with
    | none => do
      let (result, child) ← alterAt added change rest (empty added)
      return (result, table.insert key (.table child))
    | some (.table child) =>
      if child.origin = .inline ∨ (added = .dotted ∧ child.origin = .header) then none
      else do
        let (result, child) ← alterAt added change rest child
        return (result, table.insert key (.table child))
    | some (.tables list) =>
      match list.getLast? with
      | some last => do
        let (result, last) ← alterAt added change rest last
        return (result, table.insert key (.tables (list.dropLast ++ [last])))
      | none => none
    | some _ => none

/-- Adds a value under a key that may have dots. No key can be given twice, and dotted keys cannot
add to a table that stands on the way to a header. -/
def assign (path : List String) (key : String) (item : Item) : Option Table :=
  let add (parent : Table) : Option (Unit × Table) :=
    if (parent.origin = .dotted) = path.isEmpty then none
    else if (parent.find? key).isSome then none
    else some ((), parent.insert key item)
  (table.alterAt .dotted add path).map Prod.snd

end Table

namespace Item

/-- The item as a table, unless it is an array of tables or no table at all. -/
def table? : Item → Option Table
  | .table found => some found
  | _ => none

def text? : Item → Option String
  | .scalar (.text value) => some value
  | _ => none

def get? (item : Item) (key : String) : Option Item := item.table?.bind (·.find? key)

end Item

end Wireform.Toml
