import Mathlib
import WebOfThings.Proofs.Cache

/-!
# Where paths lead

Where a path leads on a disk, if it leads anywhere, can be told from its names alone
(`Disk.locate_eq_resolve`): a name goes down, and two dots go up. So two paths that resolve to
different locations never lead to the same file, and writing the one leaves the other as it is
(`Disk.spares_write?`). A name without slashes is found in the directory that it is joined to
(`Path.resolve_join_of_flat`).
-/

namespace WebOfThings

/-- One name further on from a location. -/
def Location.step (l : Location) (name : String) : Location :=
  if name = ".." then l.dropLast else l ++ [name]

namespace Path

/-- The location that a path leads to, on a disk where it can be followed. -/
def resolve (p : Path) : Location := p.names.foldl Location.step []

/-- The names in a text of a path. -/
def namesIn (l : List Char) : List String :=
  ((l.splitOn '/').map String.ofList).filter fun name => name ≠ "" && name ≠ "."

theorem names_eq (p : Path) : p.names = namesIn p.toList := rfl

/-- A slash ends a name. -/
theorem namesIn_append_cons (l r : List Char) :
    namesIn (l ++ '/' :: r) = namesIn l ++ namesIn r := by
  have hsplit : (l ++ '/' :: r).splitOn '/' = l.splitOn '/' ++ r.splitOn '/' :=
    List.splitOnP_append_cons l r rfl
  rw [namesIn, hsplit, List.map_append, List.filter_append]
  rfl

theorem namesIn_nil : namesIn [] = [] := by decide

variable {name : String}

/-- What is joined to a directory is followed from there, unless it begins at the root. -/
theorem names_join (directory : Path) (relative : name.startsWith "/" = false) :
    (join directory name).names = directory.names ++ Path.names name := by
  rw [join, relative]
  simp only [Bool.false_eq_true, if_false]
  split
  · next hends =>
    rcases Bool.or_eq_true_iff.1 hends with hempty | hslash
    · obtain rfl := of_decide_eq_true hempty
      simp [names_eq, namesIn_nil]
    · -- the slash that ends the directory is the one between them
      obtain ⟨front, hfront⟩ := String.Slice.endsWith_string_iff.1 hslash
      replace hfront : front ++ ['/'] = directory.toList := by simpa using hfront
      rw [names_eq, names_eq, names_eq, String.toList_append, ← hfront, List.append_assoc,
        List.singleton_append, namesIn_append_cons, namesIn_append_cons, namesIn_nil,
        List.append_nil]
  · have htext : (directory ++ "/" ++ name).toList = directory.toList ++ '/' :: name.toList := by
      simp
    rw [names_eq, htext, namesIn_append_cons]
    rfl

/-- A name without slashes is followed by itself. -/
theorem names_of_flat (flat : '/' ∉ name.toList) (hempty : name ≠ "") (hdot : name ≠ ".") :
    Path.names name = [name] := by
  have hsplit : name.toList.splitOn '/' = [name.toList] :=
    List.splitOnP_eq_singleton fun c hc => by
      have hne : c ≠ '/' := fun he => flat (he ▸ hc)
      simpa using hne
  rw [names_eq, namesIn, hsplit]
  simp [hempty, hdot]

/-- A name without slashes, and not only made of dots, is found in the directory that it is joined
    to. -/
theorem resolve_join_of_flat (directory : Path) (flat : '/' ∉ name.toList) (hempty : name ≠ "")
    (hdot : name ≠ ".") (hup : name ≠ "..") :
    (join directory name).resolve = directory.resolve ++ [name] := by
  have relative : name.startsWith "/" = false := by
    rw [String.startsWith_string_eq_false_iff]
    rintro ⟨rest, hrest⟩
    exact flat (hrest ▸ by simp)
  rw [resolve, names_join directory relative, names_of_flat flat hempty hdot, List.foldl_append]
  simp [resolve, Location.step, hup]

end Path

namespace Disk

variable {d d' : Disk} {l m t : Location} {p q : Path}

/-- Names lead where they say. -/
theorem walk_eq_foldl {names : List String} (h : d.walk m names = some t) :
    t = names.foldl Location.step m := by
  induction names generalizing m with
  | nil => exact (Option.some.inj h).symm
  | cons name names ih =>
    rw [walk] at h
    split at h
    · contradiction
    rw [List.foldl_cons, Location.step]
    split at h
    · next hup => rw [if_pos hup]; exact ih h
    · next hdown =>
      rw [if_neg hdown]
      split at h
      · exact ih h
      · contradiction

theorem locate_eq_resolve (h : d.locate p = some t) : t = p.resolve := walk_eq_foldl h

theorem isSome_locate_of_find? {n : Node} (h : d.find? p = some n) :
    (d.locate p).isSome = true := by
  obtain ⟨t, ht, -⟩ := Option.bind_eq_some_iff.1 h
  simp [ht]

/-- Paths that lead to one place lead to one file. -/
theorem find?_eq_of_resolve_eq (h : p.resolve = q.resolve) (hp : (d.locate p).isSome = true)
    (hq : (d.locate q).isSome = true) : d.find? p = d.find? q := by
  obtain ⟨t, ht⟩ := Option.isSome_iff_exists.1 hp
  obtain ⟨t', ht'⟩ := Option.isSome_iff_exists.1 hq
  rw [find?, find?, ht, ht', locate_eq_resolve ht, locate_eq_resolve ht', h]

/-- A file that is put somewhere opens no way. -/
theorem walk_of_walk_put {content : Bytes} {names : List String}
    (h : (d.put l (.file content)).walk m names = some t) : d.walk m names = some t := by
  induction names generalizing m with
  | nil => exact h
  | cons name names ih =>
    rw [walk] at h ⊢
    split at h
    · contradiction
    next hdirectory =>
    have hsame : d.node? m = some .directory := by
      by_cases hroot : m = []
      · simp [node?, hroot]
      · rw [not_not, node?_put d l _ hroot] at hdirectory
        split at hdirectory
        · cases hdirectory
        · exact hdirectory
    rw [if_neg (not_not.2 hsame)]
    split at h
    · next hup => rw [if_pos hup]; exact ih h
    · next hdown =>
      split at h
      · next hvalid => rw [if_neg hdown, if_pos hvalid]; exact ih h
      · contradiction

/-- Nothing is changed but what a path leads to. -/
def Spares (p : Path) (d d' : Disk) : Prop :=
  ∀ q : Path, q.resolve ≠ p.resolve → d'.find? q = d.find? q

theorem Spares.trans {d'' : Disk} (h : d.Spares p d') (h' : d'.Spares p d'') : d.Spares p d'' :=
  fun q hq => (h' q hq).trans (h q hq)

/-- Writing a file changes nothing but what its path leads to. -/
theorem spares_write? {content : Bytes} (h : d.write? p content = .ok d') : d.Spares p d' := by
  intro q hq
  obtain ⟨l, hl, -, -, hfree, rfl⟩ := write?_eq_ok_iff.1 h
  have hlocate : (d.put l (.file content)).locate q = d.locate q :=
    Option.ext fun t => ⟨walk_of_walk_put, walk_put hfree _⟩
  rw [find?, find?, hlocate]
  cases ht : d.locate q with
  | none => rfl
  | some t =>
    by_cases hroot : t = []
    · simp [node?, hroot]
    · have hne : t ≠ l := fun he =>
        hq ((locate_eq_resolve ht).symm.trans (he.trans (locate_eq_resolve hl)))
      rw [Option.bind_some, Option.bind_some, node?_put d l _ hroot, if_neg hne]

end Disk

end WebOfThings
