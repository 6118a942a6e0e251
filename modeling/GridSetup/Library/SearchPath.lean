import GridSetup.Event

/-! # Where libraries are searched

Libraries of the simulation engine come first, those of the installation
second. A place that cannot be checked is reported and counts as empty, except
that nothing being there is no news. -/

namespace GridSetup

/-- A path that could not be checked was reported. -/
def Event.IsUnreadable (event : Event) : Prop :=
  ∃ path obstacle, event = .unreadableLibrary path obstacle

/-- Tells which libraries are there. On the way it may only report what it could
not check. -/
structure Locator where
  find : String → Logged Bool
  unreadable : ∀ library, ∀ event ∈ (find library).events, event.IsUnreadable

/-- Whether a library is there. -/
def Locator.finds (locator : Locator) (library : String) : Bool := (locator.find library).value

/-- The libraries that are there. -/
abbrev Libraries := String → Bool

/-- A locator that knows the libraries without looking. -/
def Locator.ofLibraries (libraries : Libraries) : Locator where
  find library := { value := libraries library }
  unreadable _ _ h := nomatch h

instance : Coe Libraries Locator := ⟨Locator.ofLibraries⟩

/-- Where libraries are searched, in this order. -/
structure SearchPath where
  engine : String
  install : String

namespace SearchPath

def fileSuffix : String := ".so"

/-- The paths at which a library may be, the preferred one first. -/
def candidates (search : SearchPath) (library : String) : List String :=
  let fileName := library ++ fileSuffix
  [FileTree.join search.engine fileName,
    FileTree.join (FileTree.join search.install "lib") fileName]

/-- The first of the paths that leads somewhere in the tree. -/
def firstPresent (tree : FileTree) : List String → Logged (Option String)
  | [] => { value := none }
  | path :: rest =>
    match tree.locate path with
    | .ok _ => { value := some path }
    | .error .notFound => firstPresent tree rest
    | .error obstacle =>
      let found := firstPresent tree rest
      { found with events := .unreadableLibrary path obstacle :: found.events }

def find (search : SearchPath) (tree : FileTree) (library : String) :
    Logged (Option String) :=
  firstPresent tree (search.candidates library)

theorem firstPresent_unreadable (tree : FileTree) (paths : List String) :
    ∀ event ∈ (firstPresent tree paths).events, event.IsUnreadable := by
  induction paths with
  | nil => exact fun _ h => nomatch h
  | cons path rest ih =>
    intro event h
    rw [firstPresent] at h
    split at h
    · cases h
    · exact ih event h
    · rename_i obstacle _ _
      rcases List.mem_cons.mp h with rfl | h
      · exact ⟨path, obstacle, rfl⟩
      · exact ih event h

/-- The locator that searches a file tree. -/
def locator (search : SearchPath) (tree : FileTree) : Locator where
  find library :=
    let found := search.find tree library
    { value := found.value.isSome, events := found.events }
  unreadable library := firstPresent_unreadable tree (search.candidates library)

/-- The libraries that are found in a file tree. -/
def libraries (search : SearchPath) (tree : FileTree) : Libraries :=
  (search.locator tree).finds

end SearchPath
end GridSetup
