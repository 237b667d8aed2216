import TemplateLint.Interpreter
import TemplateLint.Proofs.Ancestors

/-!
# The nearest environment of a project

When no environment has been activated, that of the project is looked for: in the directory of the
document and in those above it, up to the workspace folder when that is one of them, and up to the
root otherwise.  The one that is nearest to the document is found, and nothing outside of the
folder is.
Main exports: `Path.Encloses`, `Searched`, `Disk.Offers`, `LocatesNearest`, `locatesNearest`.
-/

namespace TemplateLint

/-- The path is that of the directory or of one above it, by their components. -/
def Path.Encloses (path directory : Path) : Prop :=
  path.components ≠ [] ∧ path.components <+: directory.components

/-- The directory is the start or above it, and it is the folder or below it, if the folder is the
start or above it. -/
def Searched (folder : Option Path) (start directory : Path) : Prop :=
  directory ∈ start.ancestors ∧
    ∀ top, folder = some top → top.Encloses start → directory.StartsWith top

/-- Where the interpreter of a project environment of a directory would be. -/
def Path.environment (directory : Path) (name : String) : Path :=
  interpreterIn (directory.child name)

/-- The directory has a project environment with this interpreter; `.venv` comes before `venv`. -/
inductive Disk.Offers (disk : Disk) (directory : Path) : Path → Prop where
  | hidden (there : disk.isFile (directory.environment ".venv") = true) :
      Offers disk directory (directory.environment ".venv")
  | plain (absent : disk.isFile (directory.environment ".venv") = false)
      (there : disk.isFile (directory.environment "venv") = true) :
      Offers disk directory (directory.environment "venv")

/-! ## One directory -/

theorem projectInterpreter?_eq_some_iff {disk : Disk} {directory python : Path} :
    projectInterpreter? disk directory = some python ↔ disk.Offers directory python := by
  have names : projectEnvironments.map (fun name => interpreterIn (directory.child name)) =
      [directory.environment ".venv", directory.environment "venv"] := rfl
  rw [projectInterpreter?, names]
  constructor
  · intro found
    cases hidden : disk.isFile (directory.environment ".venv") with
    | true =>
        rw [List.find?_cons_of_pos hidden] at found
        cases found
        exact .hidden hidden
    | false =>
        rw [List.find?_cons_of_neg (by simp [hidden])] at found
        cases plain : disk.isFile (directory.environment "venv") with
        | true =>
            rw [List.find?_cons_of_pos plain] at found
            cases found
            exact .plain hidden plain
        | false =>
            rw [List.find?_cons_of_neg (by simp [plain]), List.find?_nil] at found
            cases found
  · intro offers
    cases offers with
    | hidden there => rw [List.find?_cons_of_pos there]
    | plain absent there =>
        rw [List.find?_cons_of_neg (by simp [absent]), List.find?_cons_of_pos there]

/-- There is nothing in a directory in which neither environment has an interpreter. -/
theorem projectInterpreter?_eq_none_iff {disk : Disk} {directory : Path} :
    projectInterpreter? disk directory = none ↔
      ∀ name ∈ projectEnvironments, disk.isFile (directory.environment name) = false := by
  simp [projectInterpreter?, projectEnvironments, Path.environment]

theorem Path.environment_components {directory : Path} (filled : directory.bytes ≠ [])
    {name : String} (relative : (Path.ofString name).isAbsolute = false) :
    directory.components <+: (directory.environment name).components := by
  have inner : (directory.child name).bytes ≠ [] :=
    List.ne_nil_of_mem (Path.separator_mem_join filled relative)
  obtain ⟨bin, python, below⟩ := interpreterIn_components inner
  rw [environment, below, child, components_join filled relative, List.append_assoc]
  exact List.prefix_append _ _

theorem Disk.Offers.startsWith {disk : Disk} {directory python : Path}
    (offers : disk.Offers directory python) (filled : directory.components ≠ []) :
    python.StartsWith directory := by
  have bytes : directory.bytes ≠ [] := by
    intro empty
    refine filled ?_
    rw [Path.components, Path.isAbsolute, empty]
    rfl
  cases offers with
  | hidden there => exact Path.environment_components bytes (by decide +kernel)
  | plain absent there => exact Path.environment_components bytes (by decide +kernel)

/-! ## The directories that are searched -/

theorem upTo_sublist (folder : Option Path) (paths : List Path) :
    (upTo folder paths).Sublist paths := by
  induction paths with
  | nil => exact .slnil
  | cons directory above inductionHypothesis =>
      rw [upTo]
      split
      · exact .cons_cons _ (List.nil_sublist above)
      · exact .cons_cons _ inductionHypothesis

theorem Path.Climbs.mem_upTo {start directory : Path} {paths : List Path}
    (climbs : Climbs start paths) (folder : Option Path) :
    directory ∈ upTo folder paths ↔ directory ∈ paths ∧
      ∀ top, folder = some top → top.Encloses start → directory.StartsWith top := by
  induction climbs with
  | @top start root =>
      have alone : upTo folder [start] = [start] := by
        rw [upTo, upTo, ite_self]
      rw [alone, List.mem_singleton]
      constructor
      · rintro rfl
        exact ⟨rfl, fun top _ encloses => encloses.2⟩
      · exact And.left
  | @up start parent component above next climbs inductionHypothesis =>
      rw [upTo]
      split
      · next reached =>
          obtain ⟨top, given, same⟩ : ∃ top, folder = some top ∧ top.Same start := by
            simpa using reached
          rw [List.mem_singleton]
          constructor
          · rintro rfl
            exact ⟨List.mem_cons_self, fun top _ encloses => encloses.2⟩
          · rintro ⟨member, within⟩
            rcases List.mem_cons.mp member with own | higher
            · exact own
            · -- what is above the folder is not in it
              have filled : top.components ≠ [] := by
                rw [show top.components = start.components from same, next]
                simp
              have inside : top.components <+: directory.components :=
                within top given ⟨filled, by rw [show top.components = start.components from same]⟩
              have short := (climbs.prefix_of_mem higher).length_le
              have long := inside.length_le
              rw [show top.components = start.components from same, next, List.length_append,
                List.length_singleton] at long
              omega
      · next onward =>
          have apart (top : Path) (given : folder = some top) :
              top.Encloses start ↔ top.Encloses parent := by
            have other : top.components ≠ start.components := by
              intro same
              apply onward
              simp [given, Path.Same, same]
            unfold Path.Encloses
            rw [next] at other ⊢
            rw [List.prefix_concat_iff]
            simp [other]
          rw [List.mem_cons, List.mem_cons, inductionHypothesis]
          constructor
          · rintro (rfl | ⟨higher, within⟩)
            · exact ⟨Or.inl rfl, fun top _ encloses => encloses.2⟩
            · refine ⟨Or.inr higher, fun top given encloses => ?_⟩
              exact within top given ((apart top given).mp encloses)
          · rintro ⟨own | higher, within⟩
            · exact Or.inl own
            · refine Or.inr ⟨higher, fun top given encloses => ?_⟩
              exact within top given ((apart top given).mpr encloses)

/-- In a list from near to far, the first item that has a value is the nearest one that has. -/
theorem findSome?_eq_some_iff_nearest {α β : Type} {list : List α} (has : α → Option β)
    {depth : α → Nat} (sorted : list.Pairwise fun near far => depth far < depth near) (value : β) :
    list.findSome? has = some value ↔ ∃ item ∈ list, has item = some value ∧
      ∀ nearer ∈ list, depth item < depth nearer → has nearer = none := by
  rw [List.findSome?_eq_some_iff]
  constructor
  · rintro ⟨before, item, after, rfl, own, nothing⟩
    refine ⟨item, by simp, own, fun nearer member closer => ?_⟩
    rcases List.mem_append.mp member with earlier | later
    · exact nothing nearer earlier
    · obtain ⟨-, behind, -⟩ := List.pairwise_append.mp sorted
      rcases List.mem_cons.mp later with rfl | farther
      · exact absurd closer (Nat.lt_irrefl _)
      · have bound := (List.pairwise_cons.mp behind).1 nearer farther
        omega
  · rintro ⟨item, member, own, nothing⟩
    obtain ⟨before, after, rfl⟩ := List.append_of_mem member
    refine ⟨before, item, after, rfl, own, fun nearer earlier => ?_⟩
    have closer := (List.pairwise_append.mp sorted).2.2 nearer earlier item List.mem_cons_self
    exact nothing nearer (by simp [earlier]) closer

/-! ## The environment that is found -/

/-- What is found for a document in a directory when no environment has been activated. -/
structure LocatesNearest (disk : Disk) (environ : Variables) (document : Document)
    (folder : Option Path) (start : Path) : Prop where
  /-- The directories above the start are named by the beginnings of its components. -/
  levels : start.ancestors.map Path.components = start.components.inits.tail.reverse
  present : locate disk environ document folder ≠ .missing
  /-- The interpreter that is found is that of the nearest directory that has one. -/
  found : ∀ python, locate disk environ document folder = .found python ↔
    ∃ directory, Searched folder start directory ∧ disk.Offers directory python ∧
      ∀ nearer, Searched folder start nearer →
        directory.components.length < nearer.components.length →
          ∀ name ∈ projectEnvironments, disk.isFile (nearer.environment name) = false
  unavailable : locate disk environ document folder = .unavailable ↔
    ∀ directory, Searched folder start directory →
      ∀ name ∈ projectEnvironments, disk.isFile (directory.environment name) = false
  /-- What is found lies in the folder, if that is the start or above it. -/
  within : ∀ top python, folder = some top → top.Encloses start →
    locate disk environ document folder = .found python → python.StartsWith top

section

variable {disk : Disk} {environ : Variables} {document : Document} {folder : Option Path}
  {start : Path}

theorem activeRoot?_eq_none
    (inactive : ∀ name ∈ ["VIRTUAL_ENV", "CONDA_PREFIX"],
      Variables.get? environ name = none ∨ Variables.get? environ name = some "") :
    activeRoot? environ = none := by
  rw [activeRoot?, Option.map_eq_none_iff, List.findSome?_eq_none_iff]
  intro name member
  rw [Variables.nonEmpty?]
  rcases inactive name member with unset | empty
  · rw [unset]
    rfl
  · rw [empty]
    rfl

/-- A local document is named from the root. -/
theorem Document.localPath?_isAbsolute {path : Path} (located : document.localPath? = some path) :
    path.isAbsolute = true := by
  have rooted (name : String) (names : List String) :
      (Uri.stepsPath (name :: names)).isAbsolute = true := by
    rw [Uri.stepsPath]
    split_ifs <;> rfl
  unfold localPath? Uri.toPath? at located
  split_ifs at located
  split at located
  · cases located
  · cases located
  · next names filled route =>
      obtain ⟨name, rest, rfl⟩ : ∃ name rest, names = name :: rest :=
        List.exists_cons_of_ne_nil fun empty => filled (by rw [empty])
      split at located
      · cases located
        exact rooted name rest
      · split_ifs at located
        cases located
        exact rooted name rest

/-- The directory of a document is named from the root. -/
theorem Document.directory?_isAbsolute (lies : document.directory? = some start) :
    start.isAbsolute = true := by
  obtain ⟨path, located, above⟩ := Option.bind_eq_some_iff.mp lies
  have absolute := localPath?_isAbsolute located
  rcases Path.parent?_cases absolute with ⟨alone, -⟩ | ⟨parent, -, found, rooted, -⟩
  · rw [alone] at above
    cases above
  · rw [found] at above
    cases above
    exact rooted

theorem locate_eq (disk : Disk) (folder : Option Path)
    (inactive : ∀ name ∈ ["VIRTUAL_ENV", "CONDA_PREFIX"],
      Variables.get? environ name = none ∨ Variables.get? environ name = some "")
    (lies : document.directory? = some start) :
    locate disk environ document folder =
      match (upTo folder start.ancestors).findSome? (projectInterpreter? disk) with
      | some python => .found python
      | none => .unavailable := by
  rw [locate, activeRoot?_eq_none inactive, lies]
  rfl

/-- The environment of a project that is found for a document is the nearest one, and it lies in
the workspace folder. -/
theorem locatesNearest
    (inactive : ∀ name ∈ ["VIRTUAL_ENV", "CONDA_PREFIX"],
      Variables.get? environ name = none ∨ Variables.get? environ name = some "")
    (lies : document.directory? = some start) :
    LocatesNearest disk environ document folder start := by
  have climbs := Path.climbs_ancestors (Document.directory?_isAbsolute lies)
  have searched (directory : Path) :
      directory ∈ upTo folder start.ancestors ↔ Searched folder start directory :=
    climbs.mem_upTo folder
  have sorted := climbs.pairwise.sublist (upTo_sublist folder start.ancestors)
  have nearest (python : Path) :=
    findSome?_eq_some_iff_nearest (projectInterpreter? disk) sorted python
  simp only [searched, projectInterpreter?_eq_some_iff, projectInterpreter?_eq_none_iff] at nearest
  have located := locate_eq disk folder inactive lies
  have found (python : Path) : locate disk environ document folder = .found python ↔
      (upTo folder start.ancestors).findSome? (projectInterpreter? disk) = some python := by
    rw [located]
    split
    · next same => simp [same]
    · next none => simp [none]
  constructor
  case levels => exact climbs.map_components
  case present =>
    rw [located]
    split <;> simp
  case found =>
    intro python
    rw [found, nearest]
  case unavailable =>
    have nothing : locate disk environ document folder = .unavailable ↔
        (upTo folder start.ancestors).findSome? (projectInterpreter? disk) = none := by
      rw [located]
      split
      · next same => simp [same]
      · next none => simp [none]
    rw [nothing, List.findSome?_eq_none_iff]
    simp only [searched, projectInterpreter?_eq_none_iff]
  case within =>
    intro top python given encloses here
    obtain ⟨directory, ⟨above, inside⟩, offers, -⟩ := (nearest python).mp ((found python).mp here)
    have filled : directory.components ≠ [] :=
      (climbs.mem_map_components.mp (List.mem_map_of_mem above)).1
    exact (inside top given encloses).trans (offers.startsWith filled)

end

/-! ### Environments on several levels -/

namespace Sample

/-- A template of a project. -/
def template : Document :=
  ⟨⟨"file", none, .steps ["srv", "app", "web", "a.html"], none, none⟩, "html", none, ""⟩

/-- Interpreters in `/srv/app/venv` and `/srv/.venv`. -/
def twoEnvironments : Disk :=
  let place := fun names : List String => names.map Utf8.encode
  (Disk.empty.install (place ["srv", "app", "venv", "bin", "python"]) (.file .empty true)).install
    (place ["srv", ".venv", "bin", "python"]) (.file .empty true)

/-- The nearer one is found for a template of the project; in a folder further down there is
none. -/
example :
    locate twoEnvironments [] template none = .found (.ofString "/srv/app/venv/bin/python") ∧
      locate twoEnvironments [] template (some (.ofString "/srv/app/")) =
        .found (.ofString "/srv/app/venv/bin/python") ∧
      locate twoEnvironments [] template (some (.ofString "/srv/app/web")) = .unavailable := by
  decide +kernel

end Sample

open Sample in
theorem sample_locatesNearest :
    (∀ name ∈ ["VIRTUAL_ENV", "CONDA_PREFIX"],
      Variables.get? [("CONDA_PREFIX", "")] name = none ∨
        Variables.get? [("CONDA_PREFIX", "")] name = some "") ∧
    template.directory? = some (.ofString "/srv/app/web") ∧
    LocatesNearest twoEnvironments [("CONDA_PREFIX", "")] template (some (.ofString "/srv/app"))
      (.ofString "/srv/app/web") := by
  have inactive : ∀ name ∈ ["VIRTUAL_ENV", "CONDA_PREFIX"],
      Variables.get? [("CONDA_PREFIX", "")] name = none ∨
        Variables.get? [("CONDA_PREFIX", "")] name = some "" := by decide
  have lies : template.directory? = some (.ofString "/srv/app/web") := by decide +kernel
  exact ⟨inactive, lies, locatesNearest inactive lies⟩

end TemplateLint
