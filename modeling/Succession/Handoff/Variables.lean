/-!
# Environment variables

A finite map from names to values. The view is `get?`: two environments agree when every name has
the same value in both.

* `Variables.set`, `Variables.erase`, `Variables.restore`  and what each does to `get?`;
* `Variables.override`  the environment of a successor: this one with a list of changes applied.
-/

namespace Succession

structure Variables (α : Type) where
  entries : List (String × α)
deriving Repr

namespace Variables

variable {α : Type}

def empty : Variables α := ⟨[]⟩

instance : Inhabited (Variables α) := ⟨empty⟩

def get? (vars : Variables α) (name : String) : Option α := vars.entries.lookup name

/-- the variable is gone afterwards -/
def erase (vars : Variables α) (name : String) : Variables α :=
  ⟨vars.entries.filter fun e => e.1 ≠ name⟩

/-- one entry a name: the new one replaces what was there -/
def set (vars : Variables α) (name : String) (value : α) : Variables α :=
  ⟨(name, value) :: (vars.erase name).entries⟩

/-- puts back what a variable held before: its value, or its absence -/
def restore (vars : Variables α) (name : String) : Option α → Variables α
  | some value => vars.set name value
  | none => vars.erase name

/-- later entries of a name replace earlier ones -/
def ofList (entries : List (String × α)) : Variables α :=
  entries.foldl (fun vars e => vars.set e.1 e.2) empty

/-- applies changes in order: a value is set, `none` removes the variable -/
def override (vars : Variables α) (changes : List (String × Option α)) : Variables α :=
  changes.foldl (fun vars c => vars.restore c.1 c.2) vars

/-- the variables whose values `f` can read, with what it reads -/
def filterMap {β : Type} (f : α → Option β) (vars : Variables α) : Variables β :=
  ⟨vars.entries.filterMap fun e => (f e.2).map (e.1, ·)⟩

/-! ## what each operation does to the view -/

theorem lookup_filter_ne {κ : Type} [BEq κ] [LawfulBEq κ] [DecidableEq κ]
    (entries : List (κ × α)) (name other : κ) :
    (entries.filter fun e => e.1 ≠ name).lookup other =
      if other = name then none else entries.lookup other := by
  induction entries with
  | nil => simp
  | cons e rest ih =>
    obtain ⟨k, v⟩ := e
    by_cases hk : k = name
    · rw [List.filter_cons_of_neg (by simpa using hk), ih, List.lookup_cons]
      by_cases ho : other = name
      · simp [ho]
      · have hb : (other == k) = false := by simpa [hk] using ho
        rw [hb]
    · rw [List.filter_cons_of_pos (by simpa using hk), List.lookup_cons, List.lookup_cons]
      by_cases ho : other = k
      · have hb : (other == k) = true := by simpa using ho
        rw [hb, ho, if_neg hk]
      · have hb : (other == k) = false := by simpa using ho
        rw [hb]
        exact ih

theorem get?_empty (name : String) : (empty : Variables α).get? name = none := rfl

theorem get?_erase (vars : Variables α) (name other : String) :
    (vars.erase name).get? other = if other = name then none else vars.get? other :=
  lookup_filter_ne vars.entries name other

theorem get?_set (vars : Variables α) (name other : String) (value : α) :
    (vars.set name value).get? other = if other = name then some value else vars.get? other := by
  show ((name, value) :: (vars.erase name).entries).lookup other = _
  rw [List.lookup_cons]
  by_cases h : other = name
  · simp [h]
  · have hb : (other == name) = false := by simpa using h
    rw [hb, if_neg h]
    exact (get?_erase vars name other).trans (if_neg h)

theorem get?_restore (vars : Variables α) (name other : String) (value : Option α) :
    (vars.restore name value).get? other = if other = name then value else vars.get? other := by
  cases value with
  | none => exact get?_erase vars name other
  | some v => exact get?_set vars name other v

end Variables

/-- what a process is shown of its environment. A value that is no text is shown as absent, so that
whoever puts back what was there takes such a variable away -/
abbrev Environment := Variables String

end Succession
