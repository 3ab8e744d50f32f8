import Wireform.Text.Basic
import Wireform.Toml.Line

namespace Wireform.Toml

/-! # Documents

The table that the lines of a document build up. -/

/-- A table whose header has been read, and which later lines add to. -/
structure Section where
  array : Bool
  path : List String
  key : String
  table : Table

/-- A document of which some lines have been read. The last section is not in the root yet. -/
structure Draft where
  root : Table
  current : Option Section

namespace Draft

def empty : Draft := ⟨.empty .header, none⟩

def place (root : Table) (part : Section) : Option Table :=
  let put (parent : Table) : Option (Unit × Table) :=
    if part.array then
      match parent.find? part.key with
      | some (.tables list) => some ((), parent.insert part.key (.tables (list ++ [part.table])))
      | _ => none
    else some ((), parent.insert part.key (.table part.table))
  (root.alterAt .implied put part.path).map Prod.snd

def finish? (draft : Draft) : Option Table :=
  match draft.current with
  | some part => place draft.root part
  | none => some draft.root

/-- The table that a header begins, taken out of its parent. A table that only stood on the way to
other headers keeps what it has; any other table cannot have a second header. -/
def openTable (key : String) (parent : Table) : Option (Table × Table) :=
  match parent.find? key with
  | none => some (.empty .header, parent)
  | some (.table child) =>
    if child.origin = .implied then some (.mk .header child.entries, parent.erase key) else none
  | some _ => none

/-- The next table of an array, which has to be an array of tables if it is there. -/
def openArray (key : String) (parent : Table) : Option (Table × Table) :=
  match parent.find? key with
  | none => some (.empty .header, parent.insert key (.tables []))
  | some (.tables _) => some (.empty .header, parent)
  | some _ => none

def add? (draft : Draft) : Line → Option Draft
  | .header array path key => do
    let root ← draft.finish?
    let (table, root) ←
      root.alterAt .implied (if array then openArray key else openTable key) path
    return ⟨root, some ⟨array, path, key, table⟩⟩
  | .assignment path key value =>
    match draft.current with
    | some part => do
      return ⟨draft.root, some { part with table := ← part.table.assign path key value }⟩
    | none => do return ⟨← draft.root.assign path key value, none⟩

end Draft

def ofLines? (lines : List Line) : Option Table := do
  let draft ← lines.foldlM Draft.add? .empty
  draft.finish?

def parse? (text : String) : Option Table := do
  ofLines? (← Line.readAll? (Text.dropByteOrderMark text.toList))

end Wireform.Toml
