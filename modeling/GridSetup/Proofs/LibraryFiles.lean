import GridSetup.Library.SearchPath
import Mathlib.Data.List.TakeWhile

/-! # Finding libraries

Where a path leads is stated without a limit on the links first: each name is one
step, and a step over a link is counted. Following a path comes to the same within
the limit. More entries in the tree leave such steps as they are, so a library that
is found stays found. -/

namespace GridSetup
namespace FileTree

/-! ## Paths -/

/-- From a place the names lead to the target, over so many links. -/
inductive Leads (tree : FileTree) : Nat → Place → List String → Place → Prop where
  | here (place : Place) : tree.Leads 0 place [] place
  | self {n : Nat} {place target : Place} {rest : List String}
      (inside : tree.entry? place = some .directory)
      (onward : tree.Leads n place rest target) : tree.Leads n place ("." :: rest) target
  | up {n : Nat} {place target : Place} {rest : List String}
      (inside : tree.entry? place = some .directory)
      (onward : tree.Leads n place.dropLast rest target) : tree.Leads n place (".." :: rest) target
  | down {n : Nat} {place target : Place} {name : String} {rest : List String} {entry : Entry}
      (inside : tree.entry? place = some .directory)
      (proper : name ≠ "." ∧ name ≠ "..") (short : name.utf8ByteSize ≤ maxNameSize)
      (found : tree.entry? (place ++ [name]) = some entry) (plain : ∀ link, entry ≠ .link link)
      (onward : tree.Leads n (place ++ [name]) rest target) :
      tree.Leads n place (name :: rest) target
  | across {n : Nat} {place target : Place} {name link : String} {rest : List String}
      (inside : tree.entry? place = some .directory)
      (proper : name ≠ "." ∧ name ≠ "..") (short : name.utf8ByteSize ≤ maxNameSize)
      (found : tree.entry? (place ++ [name]) = some (.link link))
      (onward : tree.Leads n (if isAbsolute link then [] else place) (names link ++ rest) target) :
      tree.Leads (n + 1) place (name :: rest) target

variable {tree : FileTree}

theorem follow_sound {links : Nat} {place target : Place} {path : List String}
    (h : tree.follow links place path = .ok target) :
    ∃ n ≤ links, tree.Leads n place path target := by
  fun_induction follow tree links place path with
  | case1 links =>
    cases h
    exact ⟨0, Nat.zero_le _, .here target⟩
  | case2 => cases h
  | case3 links place rest inside ih =>
    obtain ⟨n, hn, onward⟩ := ih h
    exact ⟨n, hn, .self (not_not.mp inside) onward⟩
  | case4 links place rest inside _ ih =>
    obtain ⟨n, hn, onward⟩ := ih h
    exact ⟨n, hn, .up (not_not.mp inside) onward⟩
  | case5 => cases h
  | case6 => cases h
  | case7 links place name rest inside hself hup short link found _ ih =>
    obtain ⟨n, hn, onward⟩ := ih h
    exact ⟨n + 1, by omega,
      .across (not_not.mp inside) ⟨hself, hup⟩ (Nat.le_of_not_lt short) found onward⟩
  | case8 => cases h
  | case9 links place name rest inside hself hup short entry plain found ih =>
    obtain ⟨n, hn, onward⟩ := ih h
    exact ⟨n, hn,
      .down (not_not.mp inside) ⟨hself, hup⟩ (Nat.le_of_not_lt short) found plain onward⟩

theorem Leads.follow_eq {n : Nat} {place target : Place} {path : List String}
    (leads : tree.Leads n place path target) :
    ∀ {links : Nat}, n ≤ links → tree.follow links place path = .ok target := by
  induction leads with
  | here =>
    intro links _
    rw [follow]
  | self inside _ ih =>
    intro links hn
    rw [follow, if_neg (not_not.mpr inside), if_pos rfl]
    exact ih hn
  | up inside _ ih =>
    intro links hn
    rw [follow, if_neg (not_not.mpr inside), if_neg (by decide), if_pos rfl]
    exact ih hn
  | @down n place target name rest entry inside proper short found plain _ ih =>
    intro links hn
    rw [follow, if_neg (not_not.mpr inside), if_neg proper.1, if_neg proper.2,
      if_neg (Nat.not_lt.mpr short), found]
    cases entry with
    | link link => exact absurd rfl (plain link)
    | directory => exact ih hn
    | file => exact ih hn
  | across inside proper short found _ ih =>
    intro links hn
    rw [follow, if_neg (not_not.mpr inside), if_neg proper.1, if_neg proper.2,
      if_neg (Nat.not_lt.mpr short), found]
    dsimp only
    rw [if_pos (by omega)]
    exact ih (by omega)

/-- Following a path leads to a place exactly if the names do so over no more links than
may be followed. -/
theorem follow_eq_ok_iff (links : Nat) (place target : Place) (path : List String) :
    tree.follow links place path = .ok target ↔ ∃ n ≤ links, tree.Leads n place path target :=
  ⟨follow_sound, fun ⟨_, hn, leads⟩ => leads.follow_eq hn⟩

theorem locate_eq_ok_iff (path : String) (place : Place) :
    tree.locate path = .ok place ↔
      ('\x00' ∉ path.toList ∧ path.utf8ByteSize ≤ maxPathSize ∧ path ≠ "") ∧
        ∃ n ≤ maxLinks, tree.Leads n [] (names path) place := by
  rw [← follow_eq_ok_iff, locate]
  simp only [List.contains_iff_mem]
  split
  · rename_i hnul
    simp [hnul]
  split
  · rename_i hlong
    simp [Nat.not_le.mpr hlong]
  split
  · rename_i hempty
    simp [hempty]
  · rename_i hnul hlong hempty
    simp [hempty, Nat.le_of_not_lt hlong, hnul]

/-! ## Larger trees -/

/-- All entries of a tree are also those of another. -/
def Extends (larger tree : FileTree) : Prop :=
  ∀ place entry, tree.entry? place = some entry → larger.entry? place = some entry

theorem Leads.mono {larger : FileTree} (h : larger.Extends tree) {n : Nat}
    {place target : Place} {path : List String} (leads : tree.Leads n place path target) :
    larger.Leads n place path target := by
  induction leads with
  | here place => exact .here place
  | self inside _ ih => exact .self (h _ _ inside) ih
  | up inside _ ih => exact .up (h _ _ inside) ih
  | down inside proper short found plain _ ih =>
    exact .down (h _ _ inside) proper short (h _ _ found) plain ih
  | across inside proper short found _ ih =>
    exact .across (h _ _ inside) proper short (h _ _ found) ih

theorem locate_mono {larger : FileTree} (h : larger.Extends tree) {path : String} {place : Place}
    (hplace : tree.locate path = .ok place) : larger.locate path = .ok place := by
  obtain ⟨hpath, n, hn, leads⟩ := (locate_eq_ok_iff path place).mp hplace
  exact (locate_eq_ok_iff path place).mpr ⟨hpath, n, hn, leads.mono h⟩

theorem Extends.trans {a b c : FileTree} (hab : a.Extends b) (hbc : b.Extends c) : a.Extends c :=
  fun place entry h => hab place entry (hbc place entry h)

/-- An entry is put where nothing stands, and nothing else changes. -/
theorem entry?_put (tree : FileTree) (place other : Place) (entry : Entry) :
    entry? (tree.put place entry) other =
      if other = place ∧ tree.entry? place = none then some entry else tree.entry? other := by
  rw [put]
  cases hentry : tree.entry? place with
  | some old => simp
  | none =>
    have hroot : place ≠ [] := by
      rintro rfl
      cases hentry
    have hfree : tree.entries.lookup place = none := by
      rwa [FileTree.entry?, if_neg hroot] at hentry
    by_cases hother : other = []
    · simp [FileTree.entry?, hother, hroot.symm]
    · by_cases hsame : other = place
      · simp [FileTree.entry?, hsame, hroot, hfree, List.lookup_append]
      · have hne : (other == place) = false := beq_eq_false_iff_ne.mpr hsame
        simp [FileTree.entry?, hother, hsame, hne, List.lookup_append, List.lookup_cons]

theorem put_extends (tree : FileTree) (place : Place) (entry : Entry) :
    (tree.put place entry).Extends tree := by
  intro other old h
  rw [FileTree.entry?_put]
  split
  · rename_i hfree
    rw [hfree.1, hfree.2] at h
    cases h
  · exact h

theorem makeDirectories_extends (tree : FileTree) (place : Place) (path : List String) :
    (tree.makeDirectories place path).Extends tree := by
  fun_induction makeDirectories tree place path with
  | case1 => exact fun _ _ h => h
  | case2 _ _ _ ih => exact ih
  | case3 _ _ _ _ ih => exact ih
  | case4 tree place name rest _ _ ih => exact ih.trans (put_extends _ _ _)

theorem addDirectory_extends (tree : FileTree) (path : String) :
    (tree.addDirectory path).Extends tree :=
  tree.makeDirectories_extends [] (names path)

theorem add_extends (tree : FileTree) (path : String) (entry : Entry) :
    (tree.add path entry).Extends tree := by
  unfold add
  split
  · exact fun _ _ h => h
  split
  · exact fun _ _ h => h
  split
  · exact fun _ _ h => h
  · exact put_extends _ _ _

end FileTree

/-! ## Libraries -/

namespace SearchPath

/-- Whether a path leads somewhere. -/
def present (tree : FileTree) (path : String) : Bool := (tree.locate path).isOk

/-- What is reported of a path that does not lead anywhere. -/
def report? (tree : FileTree) (path : String) : Option Event :=
  match tree.locate path with
  | .ok _ => none
  | .error .notFound => none
  | .error obstacle => some (.unreadableLibrary path obstacle)

/-- The first path that leads somewhere is found, and those before it that cannot be
checked are reported. -/
theorem firstPresent_eq (tree : FileTree) (paths : List String) :
    firstPresent tree paths =
      { value := paths.find? (present tree)
        events := (paths.takeWhile fun path => !present tree path).filterMap (report? tree) } := by
  induction paths with
  | nil => rfl
  | cons path rest ih =>
    rw [firstPresent, ih]
    cases hpath : tree.locate path with
    | ok place =>
      have hpresent : present tree path = true := by rw [present, hpath]; rfl
      simp [hpresent]
    | error obstacle =>
      have habsent : present tree path = false := by rw [present, hpath]; rfl
      cases obstacle <;> simp [habsent, report?, hpath]

theorem present_iff (tree : FileTree) (path : String) :
    present tree path = true ↔ ∃ place, tree.locate path = .ok place := by
  rw [present]
  cases tree.locate path <;> simp [Except.isOk, Except.toBool]

/-- A library is there if one of its paths leads somewhere. -/
theorem libraries_iff (search : SearchPath) (tree : FileTree) (library : String) :
    search.libraries tree library = true ↔
      ∃ path ∈ search.candidates library, ∃ place, tree.locate path = .ok place := by
  rw [libraries, Locator.finds]
  change (firstPresent tree _).value.isSome = true ↔ _
  rw [firstPresent_eq]
  simp [present_iff]

/-- A library of the engine hides one of the installation. -/
theorem find_engine (search : SearchPath) (tree : FileTree) (library : String) {place : Place}
    (h : tree.locate (FileTree.join search.engine (library ++ fileSuffix)) = .ok place) :
    search.find tree library =
      { value := some (FileTree.join search.engine (library ++ fileSuffix)) } := by
  have hpresent := (present_iff tree _).mpr ⟨place, h⟩
  rw [find, firstPresent_eq, candidates]
  simp [hpresent]

/-- No library gets lost by adding to the tree. -/
theorem libraries_mono (search : SearchPath) {larger tree : FileTree} (h : larger.Extends tree)
    {library : String} (hfound : search.libraries tree library = true) :
    search.libraries larger library = true := by
  obtain ⟨path, hpath, place, hplace⟩ := (search.libraries_iff tree library).mp hfound
  exact (search.libraries_iff larger library).mpr
    ⟨path, hpath, place, FileTree.locate_mono h hplace⟩

end SearchPath
end GridSetup
