import ModuleHost.Text.Blank

/-!
# Paths

Paths are compared by their parts: repeated and trailing slashes do not count, nor does a part `.`
unless it is the first of a relative path.

* `Path.key`, `Path.order` — the parts of a path as an order key; the order of paths;
* `PathSet` — a set of paths in order; `insert`, `ofList`: the first spelling entered stays.
-/

namespace ModuleHost

namespace Path

/-- The order key of a path: its parts, the root before `.` before `..` before names. -/
abbrev Key := List (List Nat)

/-- The key of the root. -/
def root : List Nat := [0]

/-- The key of a part. -/
def part (name : List Char) : List Nat :=
  if name = ['.'] then [1]
  else if name = ['.', '.'] then [2]
  else 3 :: name.map Char.toNat

/-- The parts of `names` that count after the first place. -/
def solid (names : List (List Char)) : List (List Char) :=
  names.filter fun n => !n.isEmpty && n ≠ ['.']

/-- The key of a path. -/
def key (path : String) : Key :=
  match Text.splitAt '/' path.toList with
  | [] => []
  | [] :: names =>
    if path.isEmpty then [] else root :: (solid names).map part
  | first :: names => part first :: (solid names).map part

end Path

/-- The order of paths by their parts. -/
def Path.order : String → String → Ordering := compareOn Path.key

instance : Std.TransCmp Path.order := inferInstanceAs (Std.TransCmp (compareOn Path.key))

/-- A set of paths, in order; no two have the same parts. -/
structure PathSet where
  paths : List String
  sorted : paths.Pairwise fun p q => Path.order p q = .lt

namespace PathSet

instance : DecidableEq PathSet := fun a b =>
  decidable_of_iff (a.paths = b.paths)
    ⟨fun h => by cases a; cases b; cases h; rfl, fun h => by rw [h]⟩

/-- The set without paths. -/
def empty : PathSet := ⟨[], List.Pairwise.nil⟩

/-- Enters a path into paths in order, unless one with its parts is there. -/
def enter (p : String) : List String → List String
  | [] => [p]
  | q :: qs =>
    match Path.order p q with
    | .lt => p :: q :: qs
    | .eq => q :: qs
    | .gt => q :: enter p qs

theorem mem_enter {p q : String} {qs : List String} (h : q ∈ enter p qs) : q = p ∨ q ∈ qs := by
  induction qs with
  | nil => simp_all [enter]
  | cons r rs ih =>
    rw [enter] at h
    split at h
    · exact List.mem_cons.1 h
    · exact .inr h
    · rcases List.mem_cons.1 h with rfl | h
      · exact .inr List.mem_cons_self
      · exact (ih h).imp id (List.mem_cons_of_mem _)

theorem pairwise_enter (p : String) {qs : List String}
    (h : qs.Pairwise fun p q => Path.order p q = .lt) :
    (enter p qs).Pairwise fun p q => Path.order p q = .lt := by
  induction qs with
  | nil => simp [enter]
  | cons r rs ih =>
    have hd := (List.pairwise_cons.1 h).1
    have tl := (List.pairwise_cons.1 h).2
    rw [enter]
    split
    · next hp =>
      refine List.pairwise_cons.2 ⟨fun q hq => ?_, h⟩
      rcases List.mem_cons.1 hq with rfl | hq
      · exact hp
      · exact Std.TransCmp.lt_trans hp (hd q hq)
    · exact h
    · next hp =>
      refine List.pairwise_cons.2 ⟨fun q hq => ?_, ih tl⟩
      rcases mem_enter hq with rfl | hq
      · exact Std.OrientedCmp.lt_of_gt hp
      · exact hd q hq

/-- The set with one more path, unless one with its parts is there. -/
def insert (s : PathSet) (p : String) : PathSet := ⟨enter p s.paths, pairwise_enter p s.sorted⟩

/-- The set of a list of paths. -/
def ofList (paths : List String) : PathSet := paths.foldl insert empty

end PathSet

end ModuleHost
