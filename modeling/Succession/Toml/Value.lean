/-!
# TOML values

A value remembers in which form its table or array was written, because the form decides whether
later lines may add to it.

* `Toml.Value`, `Toml.Table`;
* `Toml.Table.assign`     a dotted key and a value, added to a table;
* `Toml.Table.openHeader`, `Toml.Table.openArrayHeader`   what a header line does to the document;
* `Toml.Table.update`     all of them reach a table inside a table through this.
-/

namespace Succession.Toml

/-- how a table came to be -/
inductive TableForm where
  /-- by a header line of its own, or the document itself -/
  | header
  /-- by a header line of a table below it -/
  | implicit
  /-- by a dotted key -/
  | dotted
  /-- between braces -/
  | inline
deriving DecidableEq, Repr

/-- how an array came to be -/
inductive ArrayForm where
  /-- between brackets -/
  | inline
  /-- by header lines, a table each -/
  | headers
deriving DecidableEq, Repr

inductive Value where
  | string (text : String)
  | integer (value : Int)
  /-- as written -/
  | float (text : String)
  | boolean (value : Bool)
  /-- as written -/
  | datetime (text : String)
  | array (form : ArrayForm) (items : List Value)
  | table (form : TableForm) (entries : List (String × Value))

/-- a table's form and its entries in the order of writing -/
structure Table where
  form : TableForm
  entries : List (String × Value)

namespace Table

def get? (t : Table) (key : String) : Option Value := t.entries.lookup key

/-- replaces the value of a key in its place, or adds the key at the end -/
def put (t : Table) (key : String) (value : Value) : Table :=
  match t.get? key with
  | none => { t with entries := t.entries ++ [(key, value)] }
  | some _ => { t with entries := t.entries.map fun e => if e.1 = key then (key, value) else e }

def toValue (t : Table) : Value := .table t.form t.entries

/-- changes the table at the end of `path` by `change`. Tables that are missing on the way are made
in the form `made`; from an array of headers the way leads into its last table. A dotted key may
not go through a table that has a header of its own, and nothing goes through braces. -/
def update (made : TableForm) (change : Table → Option Table) (t : Table) :
    List String → Option Table
  | [] => change t
  | key :: rest => do
    match t.get? key with
    | none =>
      let inner ← update made change ⟨made, []⟩ rest
      return t.put key inner.toValue
    | some (.table form entries) =>
      if form = .inline ∨ (made = .dotted ∧ form = .header) then none
      else
        let inner ← update made change ⟨form, entries⟩ rest
        return t.put key inner.toValue
    | some (.array .headers items) =>
      match items.getLast? with
      | some (.table form entries) =>
        let inner ← update made change ⟨form, entries⟩ rest
        return t.put key (.array .headers (items.dropLast ++ [inner.toValue]))
      | _ => none
    | some _ => none

/-- adds a key with its value, if the key is new -/
def insertNew (t : Table) (key : String) (value : Value) : Option Table :=
  if (t.get? key).isSome then none else some (t.put key value)

/-- `path.key = value` inside a table: the path makes dotted tables and ends in one -/
def assign (t : Table) (path : List String) (key : String) (value : Value) : Option Table :=
  t.update .dotted (fun inner =>
    if path ≠ [] ∧ inner.form ≠ .dotted then none else inner.insertNew key value) path

/-- `[path.key]`: a table is opened by one header only -/
def openHeader (t : Table) (path : List String) (key : String) : Option Table :=
  t.update .implicit (fun inner =>
    match inner.get? key with
    | none => some (inner.put key (.table .header []))
    | some (.table .implicit entries) => some (inner.put key (.table .header entries))
    | some _ => none) path

/-- `[[path.key]]`: one more table in an array of headers -/
def openArrayHeader (t : Table) (path : List String) (key : String) : Option Table :=
  t.update .implicit (fun inner =>
    match inner.get? key with
    | none => some (inner.put key (.array .headers [.table .header []]))
    | some (.array .headers items) =>
      some (inner.put key (.array .headers (items ++ [.table .header []])))
    | some _ => none) path

end Table
end Succession.Toml
