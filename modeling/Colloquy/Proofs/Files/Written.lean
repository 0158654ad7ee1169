import Mathlib.Data.List.DropRight
import Colloquy.Files.Tree

/-!
# Files that were written

A file that was written is there afterwards and holds the bytes that it was given (`FileTree.read_of_write`): to write it changes the
node at one location, which is no directory, and the way there leads over directories alone.
-/

namespace Colloquy.FileTree

variable {t t' : FileTree} {place : Location} {node : FileNode}

/-! ## Putting a node -/

theorem lookup_filter_of_ne {other : Location} (hne : other ≠ place) (nodes : List (Location × FileNode)) :
    (nodes.filter fun n => n.1 ≠ place).lookup other = nodes.lookup other := by
  induction nodes with
  | nil => rfl
  | cons n rest ih =>
    by_cases hn : n.1 = place
    · have hother : (other == n.1) = false := beq_eq_false_iff_ne.mpr (hn ▸ hne)
      rw [List.filter_cons_of_neg (by simpa using hn), List.lookup_cons, hother]
      exact ih
    · rw [List.filter_cons_of_pos (by simpa using hn), List.lookup_cons, List.lookup_cons, ih]

theorem node?_put (t : FileTree) (place : Location) (node : FileNode) (other : Location) :
    (t.put place node).node? other = if other = place then some node else t.node? other := by
  unfold node? put
  rw [List.lookup_cons]
  by_cases hplace : other = place
  · rw [if_pos hplace, beq_iff_eq.mpr hplace]
  · rw [if_neg hplace, beq_eq_false_iff_ne.mpr hplace]
    exact lookup_filter_of_ne hplace t.nodes

/-- Directories stay where a node is put that replaces none. -/
theorem isDirectory_put (hplace : t.isDirectory place = false) {other : Location} (hother : t.isDirectory other = true) :
    (t.put place node).isDirectory other = true := by
  have hne : other ≠ place := by
    rintro rfl
    rw [hplace] at hother
    cases hother
  rw [isDirectory, node?_put, if_neg hne]
  exact hother

/-- Names lead where they led, if a node is put that replaces no directory. -/
theorem walk_put (hplace : t.isDirectory place = false) {start found : Location} {names : List String}
    (hwalk : t.walk start names = .ok found) : (t.put place node).walk start names = .ok found := by
  induction names generalizing start with
  | nil => exact hwalk
  | cons name rest ih =>
    rw [walk] at hwalk ⊢
    split at hwalk
    · cases hwalk
    next hstart =>
    have hstart' : ¬(!(t.put place node).isDirectory start) = true := by
      rw [isDirectory_put hplace (by simpa using hstart)]
      decide
    rw [if_neg hstart']
    split at hwalk
    next hstays => rw [if_pos hstays, ih hwalk]
    next hstays =>
    rw [if_neg hstays]
    split at hwalk
    next hup => rw [if_pos hup, ih hwalk]
    next hup =>
    rw [if_neg hup]
    split at hwalk
    · cases hwalk
    next hlong =>
    rw [if_neg hlong]
    split at hwalk
    · cases hwalk
    next hthere =>
    -- the node that was put is one more that is there
    have hthere' : ¬((t.put place node).node? (name :: start)).isNone = true := by
      rw [node?_put]
      split
      · exact nofun
      · exact hthere
    rw [if_neg hthere', ih hwalk]

theorem walk_append (t : FileTree) (start : Location) (a b : List String) :
    t.walk start (a ++ b) = t.walk start a >>= fun place => t.walk place b := by
  induction a generalizing start with
  | nil => rfl
  | cons name rest ih =>
    rw [List.cons_append, walk, walk]
    split
    · rfl
    split
    · exact ih start
    split
    · exact ih start.tail
    split
    · rfl
    split
    · rfl
    · exact ih (name :: start)

/-! ## Writing -/

/-- Where a file can be written: the last name of the path is a proper one, in a directory, and of no directory. -/
structure IsWritable (t : FileTree) (path : String) (outer : List String) (place : Location) (name : String) : Prop where
  names : namesOf path = outer ++ [name]
  flawless : flaw? path.toList = none
  leads : t.walk (startOf path) outer = .ok place
  inDirectory : t.isDirectory place = true
  short : isTooLong name = false
  proper : stays name = false ∧ name ≠ ".."
  noDirectory : t.isDirectory (name :: place) = false

/-- To write a file puts it where it can be written. -/
theorem write_eq_ok {path : String} {bytes : List UInt8} (h : t.write path bytes = .ok t') :
    ∃ outer place name, t.IsWritable path outer place name ∧ t' = t.put (name :: place) (.file bytes) := by
  have hpart : ((namesOf path).reverse.dropWhile (· = "")).reverse <+: namesOf path := List.rdropWhile_prefix _ _
  unfold write at h
  split at h
  · cases h
  next hflaw =>
  dsimp only at h
  generalize ((namesOf path).reverse.dropWhile (· = "")).reverse = proper at h hpart
  cases hwalk : t.walk (startOf path) proper.dropLast with
  | error e =>
    rw [hwalk] at h
    cases h
  | ok place =>
    rw [hwalk] at h
    dsimp only [bind, Except.bind] at h
    split at h
    · cases h
    next hdirectory =>
    split at h
    · cases h
    next hlength =>
    split at h
    · cases h
    next hshort =>
    split at h
    · cases h
    next hname =>
      obtain ⟨hstays, hup, hno⟩ : stays (proper.getLast?.getD "") = false ∧ proper.getLast?.getD "" ≠ ".." ∧
          t.isDirectory (proper.getLast?.getD "" :: place) = false := by simpa using hname
      have hall : proper = namesOf path := hpart.eq_of_length_le (Nat.le_of_not_lt hlength)
      cases h
      rcases List.eq_nil_or_concat proper with hnone | ⟨outer, name, hconcat⟩
      · rw [hnone] at hstays
        cases hstays
      · rw [List.concat_eq_append] at hconcat
        rw [hconcat, List.dropLast_concat] at hwalk
        rw [hconcat, List.getLast?_concat, Option.getD_some] at hstays hup hno hshort ⊢
        have hflawless : flaw? path.toList = none := Option.eq_none_iff_forall_ne_some.mpr hflaw
        exact ⟨outer, place, name, ⟨by rw [← hall, hconcat], hflawless, hwalk, by simpa using hdirectory, by simpa using hshort,
          ⟨hstays, hup⟩, hno⟩, rfl⟩

/-- A file that was written is there. -/
theorem IsWritable.find_put {path : String} {outer : List String} {name : String} (h : t.IsWritable path outer place name)
    (bytes : List UInt8) : (t.put (name :: place) (.file bytes)).find path = .ok (name :: place) := by
  have hlast : (t.put (name :: place) (.file bytes)).walk place [name] = .ok (name :: place) := by
    have hthere : ((t.put (name :: place) (.file bytes)).node? (name :: place)).isNone = false := by
      rw [node?_put, if_pos rfl]
      rfl
    rw [walk, isDirectory_put h.noDirectory h.inDirectory, h.proper.1, h.short, hthere]
    exact if_neg h.proper.2
  rw [find, h.flawless, h.names]
  dsimp only
  rw [walk_append, walk_put h.noDirectory h.leads]
  exact hlast

/-- A file that was written holds what was written to it. -/
theorem read_of_write {path : String} {bytes : List UInt8} (h : t.write path bytes = .ok t') :
    t'.holds path = true ∧ t'.read path = .ok bytes := by
  obtain ⟨outer, place, name, hwritable, rfl⟩ := write_eq_ok h
  have hfind := hwritable.find_put bytes
  constructor
  · rw [holds, hfind]
    rfl
  · have hnode : (t.put (name :: place) (.file bytes)).node? (name :: place) = some (.file bytes) := by
      rw [node?_put, if_pos rfl]
    rw [read, hfind]
    dsimp only [bind, Except.bind]
    rw [hnode]

end Colloquy.FileTree
