import ObjectBridge.Toml.Grammar

/-!
Documents: the table that the lines of a document describe. A header opens a table, which is put in its
place when the next header or the end of the document is reached.
-/

namespace ObjectBridge.Toml

inductive Place where
  | root
  | table (path : List String) (key : String)
  | element (path : List String) (key : String)

structure Draft where
  root : Table
  current : Table
  place : Place

namespace Draft

def start : Draft :=
  { root := .explicit, current := .explicit, place := .root }

def close (draft : Draft) : Option Table :=
  match draft.place with
  | .root => some draft.current
  | .table path key =>
    draft.root.within false
      (fun parent =>
        if (parent.find? key).isSome then none else some (parent.put key (.table draft.current)))
      path
  | .element path key =>
    draft.root.within false
      (fun parent =>
        match parent.find? key with
        | none => some (parent.put key (.tables [draft.current]))
        | some (.tables others) => some (parent.put key (.tables (others ++ [draft.current])))
        | some _ => none)
      path

/-- Opens the table of a header. A table that was only implied before is taken up; any other is not to
be named again. -/
def openTable (draft : Draft) (path : List String) (key : String) : Option Draft := do
  let root ← draft.close
  let place := Place.table path key
  match root.at? path key with
  | none => some { root, current := .explicit, place }
  | some (.table found) =>
    if found.isImplicit && !found.isDotted then
      let root ← root.within false (some <| ·.remove key) path
      some { root, current := found.named, place }
    else none
  | some _ => none

def openElement (draft : Draft) (path : List String) (key : String) : Option Draft := do
  let root ← draft.close
  match root.at? path key with
  | none | some (.tables _) => some { root, current := .explicit, place := .element path key }
  | some _ => none

def read (draft : Draft) : Line → Option Draft
  | .entry path value => do
    let current ← draft.current.assign path value
    some { draft with current }
  | .table path => do draft.openTable path.dropLast (← path.getLast?)
  | .element path => do draft.openElement path.dropLast (← path.getLast?)

end Draft

def parse (text : String) : Option Table := do
  let (lines, _) ← Scan.document text.toList
  let draft ← lines.foldlM Draft.read .start
  draft.close

end ObjectBridge.Toml
