/-
  FlatFile/Markup/NameSet.lean
  ============================
  **Sets of names.**

  No element carries an attribute twice, so whoever reads or writes one keeps the
  names it has met.  There may be one for each column of a wide line; the set is a
  tree that branches by the characters of the names, and looking a name up takes
  no longer than spelling it.  `contains_insert` says what is in it.
-/

namespace FlatFile.Markup

/-- The names that go on from some beginning: that beginning itself or not, and those with
    a further character. -/
inductive NameTree where
  | node (ends : Bool) (branches : List (Char × NameTree))

namespace NameTree

def empty : NameTree := .node false []

/-- What goes on with a character. -/
def branch? (c : Char) : List (Char × NameTree) → Option NameTree
  | [] => none
  | (d, tree) :: branches => if d = c then some tree else branch? c branches

/-- The branches with another one for a character. -/
def setBranch (c : Char) (tree : NameTree) : List (Char × NameTree) → List (Char × NameTree)
  | [] => [(c, tree)]
  | (d, other) :: branches =>
    if d = c then (c, tree) :: branches else (d, other) :: setBranch c tree branches

def contains : NameTree → List Char → Bool
  | .node ends _, [] => ends
  | .node _ branches, c :: rest =>
    match branch? c branches with
    | some tree => contains tree rest
    | none => false

def insert : NameTree → List Char → NameTree
  | .node _ branches, [] => .node true branches
  | .node ends branches, c :: rest =>
    .node ends (setBranch c (insert ((branch? c branches).getD empty) rest) branches)

theorem branch?_setBranch (c d : Char) (tree : NameTree) (branches : List (Char × NameTree)) :
    branch? d (setBranch c tree branches) = if c = d then some tree else branch? d branches := by
  induction branches with
  | nil => simp [setBranch, branch?]
  | cons entry branches ih =>
    obtain ⟨e, other⟩ := entry
    by_cases ec : e = c
    · subst ec
      by_cases ed : e = d <;> simp [setBranch, branch?, ed]
    · by_cases ed : e = d
      · subst ed
        have ce : c ≠ e := fun same => ec same.symm
        simp [setBranch, branch?, ec, ce]
      · simp [setBranch, branch?, ec, ed, ih]

@[simp] theorem contains_empty (name : List Char) : empty.contains name = false := by
  cases name <;> rfl

@[simp] theorem contains_insert (tree : NameTree) (name other : List Char) :
    (tree.insert name).contains other = (other == name || tree.contains other) := by
  induction name generalizing tree other with
  | nil =>
    obtain ⟨ends, branches⟩ := tree
    cases other <;> simp [insert, contains]
  | cons c rest ih =>
    obtain ⟨ends, branches⟩ := tree
    cases other with
    | nil => simp [insert, contains]
    | cons d other =>
      by_cases cd : c = d
      · subst cd
        cases found : branch? c branches <;>
          simp [insert, contains, branch?_setBranch, found, ih]
      · have dc : d ≠ c := fun same => cd same.symm
        simp [insert, contains, branch?_setBranch, cd, dc]

end NameTree

/-- A set of names, and how often one was put in. -/
structure NameSet where
  tree : NameTree
  insertions : Nat

namespace NameSet

def empty : NameSet := ⟨.empty, 0⟩

def contains (set : NameSet) (name : List Char) : Bool := set.tree.contains name

def insert (set : NameSet) (name : List Char) : NameSet :=
  ⟨set.tree.insert name, set.insertions + 1⟩

def ofList (names : List (List Char)) : NameSet := names.foldl insert empty

@[simp] theorem contains_empty (name : List Char) : empty.contains name = false := by
  simp [contains, empty]

@[simp] theorem contains_insert (set : NameSet) (name other : List Char) :
    (set.insert name).contains other = (other == name || set.contains other) := by
  simp [contains, insert]

end NameSet

end FlatFile.Markup
