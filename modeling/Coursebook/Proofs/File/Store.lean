/-
Files in a directory. A name joined to the path of a directory leads to the
file of that name in it (`Path.resolve_join`); a file that is there is read,
and a write changes the one file that it is about.
-/
import Coursebook.File.System
import Coursebook.Proofs.Text.Search
import Mathlib.Data.List.TakeDrop

namespace Coursebook

/-! ## Names in a directory -/

namespace Path

/-- A name is its stem and its extension with a point between them. -/
theorem eq_of_extension {name extension : Text} (h : (cutExtension name).2 = some extension) :
    name = (cutExtension name).1 ++ '.' :: extension ∧ (cutExtension name).1 ≠ [] := by
  unfold cutExtension at h ⊢
  rw [List.span_eq_takeWhile_dropWhile] at h ⊢
  have hreverse : name.reverse.takeWhile (· ≠ '.') ++ name.reverse.dropWhile (· ≠ '.') = name.reverse :=
    List.takeWhile_append_dropWhile
  split at h
  next back stem hcut =>
    split at h
    next => cases h
    next hstem =>
      cases h
      rw [(Prod.mk.inj hcut).1, (Prod.mk.inj hcut).2] at hreverse
      simp only [if_neg hstem]
      exact ⟨by rw [← List.reverse_inj, ← hreverse]; simp, by simpa using hstem⟩
  next => cases h

/-- Whether a file in a directory can have this name. -/
structure IsName (name : Text) : Prop where
  ne_nil : name ≠ []
  noSlash : '/' ∉ name
  ne_here : name ≠ ['.']
  ne_up : name ≠ ['.', '.']

theorem parts_nil : parts [] = [] := by
  rw [parts, Text.splitOn_of_not_mem List.not_mem_nil]
  rfl

/-- What stands in front of the name in a joined path starts as the path of the directory does. -/
theorem join_eq (directory name : Text) :
    ∃ front, join directory name = front ++ name ∧ (front = [] → directory = []) ∧ front.head? = directory.head? := by
  rw [join]
  split
  next => exact ⟨directory, rfl, id, rfl⟩
  next hdirectory =>
    obtain ⟨hne, -⟩ := not_or.1 hdirectory
    obtain ⟨c, d, rfl⟩ := List.exists_cons_of_ne_nil hne
    exact ⟨c :: d ++ ['/'], by simp, by simp, rfl⟩

variable {name : Text} (h : IsName name)

include h

theorem parts_name : parts name = [name] := by
  rw [parts, Text.splitOn_of_not_mem h.noSlash, List.filter_cons_of_pos (by simp [h.ne_nil, h.ne_here]), List.filter_nil]

theorem parts_join (directory : Text) : parts (join directory name) = parts directory ++ [name] := by
  have hslash : ∀ d : Text, parts (d ++ '/' :: name) = parts d ++ [name] := by
    intro d
    rw [← parts_name h, parts, Text.splitOn_append_cons, List.filter_append]
    rfl
  rw [join]
  split
  next hdirectory =>
    rcases hdirectory with rfl | hlast
    · rw [List.nil_append, parts_name h, parts_nil, List.nil_append]
    · obtain ⟨d, rfl⟩ := List.getLast?_eq_some_iff.1 hlast
      have hempty : parts (d ++ ['/']) = parts d := by
        rw [parts, Text.splitOn_append_cons, List.filter_append, ← parts, ← parts, parts_nil, List.append_nil]
      rw [List.append_assoc, List.singleton_append, hslash, hempty]
  next => exact hslash directory

/-- **A name leads into the directory.** -/
theorem resolve_join (directory : Text) : resolve (join directory name) = resolve directory ++ [name] := by
  rw [resolve, parts_join h, List.foldl_append, List.foldl_cons, List.foldl_nil, if_neg h.ne_up, List.reverse_cons]
  rfl

theorem extension?_join (directory : Text) : extension? (join directory name) = (cutExtension name).2 := by
  rw [extension?, fileName, parts_join h, List.getLast?_concat]
  simp only [if_neg h.ne_up]

theorem resolve_name : resolve name = [name] := by
  rw [resolve, parts_name h, List.foldl_cons, List.foldl_nil, if_neg h.ne_up]
  rfl

theorem asksDirectory_join (directory : Text) : FileStore.asksDirectory (join directory name) = false := by
  obtain ⟨front, hjoin, -⟩ := join_eq directory name
  refine decide_eq_false fun hlast => h.noSlash ?_
  rcases List.eq_nil_or_concat name with hnil | ⟨init, c, rfl⟩
  · exact absurd hnil h.ne_nil
  · rw [hjoin, List.concat_eq_append, ← List.append_assoc, List.getLast?_concat, Option.some_inj] at hlast
    simp [hlast]

theorem isOutside_join (directory : Text) : FileStore.isOutside (join directory name) = FileStore.isOutside directory := by
  obtain ⟨front, hjoin, hnil, hhead⟩ := join_eq directory name
  cases front with
  | nil =>
    have hname : name.head? ≠ some '/' := fun hname => h.noSlash (List.mem_of_head? hname)
    rw [hjoin, hnil rfl]
    simp [FileStore.isOutside, hname]
  | cons c front =>
    rw [hjoin, FileStore.isOutside, FileStore.isOutside, ← hhead]
    rfl

end Path

/-! ## Files in memory -/

namespace FileStore

/-- A store with one file as it is given. -/
def put (s : FileStore) (p : List Text) (content : Text) : FileStore :=
  { s with files := (p, content) :: s.files.filter fun f => f.1 ≠ p }

theorem content?_put_self (s : FileStore) (p : List Text) (content : Text) : (s.put p content).content? p = some content := by
  rw [content?, put, List.lookup_cons_self]

theorem content?_put_of_ne {p q : List Text} (h : q ≠ p) (s : FileStore) (content : Text) :
    (s.put p content).content? q = s.content? q := by
  have hfilter : (s.files.filter fun f => f.1 ≠ p).lookup q = s.files.lookup q := by
    induction s.files with
    | nil => rfl
    | cons f files ih =>
      by_cases hf : f.1 = p
      · have hq : (q == f.1) = false := beq_eq_false_iff_ne.2 (hf ▸ h)
        rw [List.filter_cons_of_neg (by simp [hf]), ih, List.lookup_cons, hq]
      · rw [List.filter_cons_of_pos (by simp [hf]), List.lookup_cons, List.lookup_cons, ih]
  rw [content?, put, List.lookup_cons, beq_eq_false_iff_ne.2 h]
  exact hfilter

/-- Whether there is nothing in a directory. -/
def EmptyAt (s : FileStore) (p : List Text) : Prop :=
  ∀ q, q ≠ [] → s.content? (p ++ q) = none ∧ s.hasDirectory (p ++ q) = false

theorem hasDirectory_iff {s : FileStore} {p : List Text} :
    s.hasDirectory p = true ↔ p = [] ∨ p ∈ s.directories ∨ ∃ f ∈ s.files, p <+: f.1 ∧ p ≠ f.1 := by
  simp [hasDirectory, or_assoc]

/-- A file makes the directories around it, and no others. -/
theorem hasDirectory_put {s : FileStore} {p q : List Text} {content : Text} :
    (s.put p content).hasDirectory q = true ↔ s.hasDirectory q = true ∨ q <+: p ∧ q ≠ p := by
  rw [hasDirectory_iff, hasDirectory_iff]
  constructor
  · rintro (h | h | ⟨f, hf, hbelow⟩)
    · exact .inl (.inl h)
    · exact .inl (.inr (.inl h))
    · rcases List.mem_cons.1 hf with rfl | hf
      · exact .inr hbelow
      · exact .inl (.inr (.inr ⟨f, (List.mem_filter.1 hf).1, hbelow⟩))
  · rintro ((h | h | ⟨f, hf, hbelow⟩) | hbelow)
    · exact .inl h
    · exact .inr (.inl h)
    · by_cases hp : f.1 = p
      · exact .inr (.inr ⟨(p, content), List.mem_cons_self, hp ▸ hbelow⟩)
      · exact .inr (.inr ⟨f, List.mem_cons_of_mem _ (List.mem_filter.2 ⟨hf, by simpa using hp⟩), hbelow⟩)
    · exact .inr (.inr ⟨(p, content), List.mem_cons_self, hbelow⟩)

section

variable {s : FileStore} {directory name : Text} (hname : Path.IsName name) (hinside : isOutside directory = false)

include hname hinside

/-- A file that is there is read. -/
theorem read_join {content : Text} (h : s.content? (Path.resolve directory ++ [name]) = some content) :
    s.read (Path.join directory name) = .ok content := by
  simp [read, Path.isOutside_join hname, hinside, Path.resolve_join hname, h, Path.asksDirectory_join hname]

/-- A file is written into a directory that is there, if it is not the name of another directory. -/
theorem write_join (hdirectory : s.hasDirectory (Path.resolve directory) = true)
    (hfree : s.hasDirectory (Path.resolve directory ++ [name]) = false) (content : Text) :
    s.write (Path.join directory name) content = .ok (s.put (Path.resolve directory ++ [name]) content) := by
  simp only [write, Path.isOutside_join hname, hinside, Path.resolve_join hname, hfree, List.dropLast_concat, hdirectory,
    Path.asksDirectory_join hname]
  rfl

end

theorem run_updating {f : FileStore → Except FileError FileStore} {s s' : FileStore} (h : f s = .ok s') :
    (updating f).run s = (.ok (), s') := by
  simp only [StateT.run, updating, h]

/-- Files in memory some of which cannot be read, say because they hold no text. -/
def systemWith (faults : Text → Option FileError) : FileSystem (StateM FileStore) :=
  { system with read := fun path s => ((faults path).elim (s.read path) .error, s) }

/-- The files that a directory lists are there. -/
theorem content?_of_list {s : FileStore} {directory : Text} {names : List Text} (h : s.list directory = .ok names) :
    isOutside directory = false ∧
      ∀ name ∈ names, ∃ content, s.content? (Path.resolve directory ++ [name]) = some content := by
  rw [list] at h
  split at h
  · cases h
  next hinside =>
    split at h
    · cases h
      refine ⟨Bool.eq_false_iff.2 hinside, fun name hmem => ?_⟩
      obtain ⟨⟨p, content⟩, hf, hname⟩ := List.mem_filterMap.1 hmem
      have hplace : p = Path.resolve directory ++ [name] := by
        simp only at hname
        split at hname
        next last parents hreverse =>
          obtain ⟨hparents, rfl⟩ : parents.reverse = Path.resolve directory ∧ last = name := by simpa using hname
          rw [← hparents, ← List.reverse_cons, ← hreverse, List.reverse_reverse]
        next => cases hname
      have hsome : (s.content? (Path.resolve directory ++ [name])).isSome :=
        List.lookup_isSome_iff.2 ⟨(p, content), hf, beq_iff_eq.2 hplace.symm⟩
      exact Option.isSome_iff_exists.1 hsome
    · cases h

/-- What there is once a directory was made. -/
theorem makeDirectory_ok {s s' : FileStore} {directory : Text} (h : s.makeDirectory directory = .ok s') :
    isOutside directory = false ∧ s'.files = s.files ∧ s'.hasDirectory (Path.resolve directory) = true := by
  rw [makeDirectory] at h
  split at h
  · cases h
  next hinside =>
    refine ⟨Bool.eq_false_iff.2 hinside, ?_⟩
    split at h
    next hthere =>
      cases h
      exact ⟨rfl, hthere⟩
    next =>
      split at h
      · cases h
      · split at h
        · cases h
        · cases h
          refine ⟨rfl, hasDirectory_iff.2 (.inr (.inl (List.mem_append_left _ ?_)))⟩
          exact List.mem_map.2 ⟨(Path.resolve directory).length, by simp, List.take_length⟩

end FileStore

end Coursebook
