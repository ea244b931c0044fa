/-!
TOML values and tables. A table remembers how it came about, since that decides what may be added to it
later in a document.
-/

namespace ObjectBridge.Toml

mutual

inductive Value where
  | string (text : String)
  | integer (value : Int)
  | float (text : String)
  | boolean (value : Bool)
  | moment (text : String)
  | array (items : List Value)
  | inline (table : Table)

inductive Item where
  | value (value : Value)
  | table (table : Table)
  | tables (tables : List Table)

/-- The entries in the order in which they were made. A table is implicit if no header and no brace
names it, and dotted if a key with points made it. -/
inductive Table where
  | mk (entries : List (String × Item)) (isImplicit isDotted : Bool)

end

namespace Table

def entries : Table → List (String × Item)
  | mk entries _ _ => entries

def isImplicit : Table → Bool
  | mk _ isImplicit _ => isImplicit

def isDotted : Table → Bool
  | mk _ _ isDotted => isDotted

def explicit : Table :=
  mk [] false false

def implied (isDotted : Bool) : Table :=
  mk [] true isDotted

def find? (table : Table) (key : String) : Option Item :=
  table.entries.lookup key

def put (table : Table) (key : String) (item : Item) : Table :=
  let entries :=
    if (table.find? key).isSome then
      table.entries.map fun entry => if entry.1 = key then (key, item) else entry
    else table.entries ++ [(key, item)]
  mk entries table.isImplicit table.isDotted

def remove (table : Table) (key : String) : Table :=
  mk (table.entries.filter (·.1 ≠ key)) table.isImplicit table.isDotted

def named (table : Table) : Table :=
  mk table.entries false table.isDotted

def at? (table : Table) (path : List String) (key : String) : Option Item :=
  match path with
  | [] => table.find? key
  | name :: path =>
    match table.find? name with
    | some (.table inner) => inner.at? path key
    | some (.tables inner) => inner.getLast?.bind fun last => last.at? path key
    | _ => none

/-- Changes the table that a path leads to. Tables that are missing on the way are made. By a key with
points no table can be reached that is named itself. -/
def within (dotted : Bool) (change : Table → Option Table) : List String → Table → Option Table
  | [], table => change table
  | key :: path, table => do
    let inner ← match table.find? key with
      | none => Item.table <$> within dotted change path (implied dotted)
      | some (.table inner) =>
        if dotted && !inner.isImplicit then none
        else Item.table <$> within dotted change path inner
      | some (.tables inner) => do
        let last ← inner.getLast?
        let changed ← within dotted change path last
        some (.tables (inner.dropLast ++ [changed]))
      | some (.value _) => none
    return table.put key inner

def add (viaPoints : Bool) (key : String) (item : Item) (table : Table) : Option Table :=
  if table.isDotted ≠ viaPoints then none
  else if (table.find? key).isSome then none
  else some (table.put key item)

def assign (path : List String) (value : Value) (table : Table) : Option Table :=
  match path.getLast? with
  | none => none
  | some key =>
    let way := path.dropLast
    within true (add (!way.isEmpty) key (.value value)) way table

end Table

end ObjectBridge.Toml
