import TemplateLint.Document

/-!
# The innermost folder

Of the folders that a document lies in the one with most components is used.  Two folders that a
path lies in, and that have as many components, are the same folder.  So it does not matter in which
order, how often and in which spelling the folders are listed.
Main exports: `Path.Innermost`, `Path.Alike`, `Document.UsesInnermost`, `Document.usesInnermost`.
-/

namespace TemplateLint

namespace Path

variable {folders others : List Path} {path folder other : Path}

theorem StartsWith.of_same (within : path.StartsWith folder) (same : other.Same folder) :
    path.StartsWith other := by
  rw [StartsWith, show other.components = folder.components from same]
  exact within

/-- The folder is listed and contains the path, and no other one that does has more components. -/
structure Innermost (folders : List Path) (path folder : Path) : Prop where
  listed : folder ∈ folders
  contains : path.StartsWith folder
  deepest : ∀ other ∈ folders, path.StartsWith other →
    other.components.length ≤ folder.components.length

/-- The lists have the same folders, in any order, number and spelling. -/
structure Alike (folders others : List Path) : Prop where
  forth : ∀ folder ∈ folders, ∃ other ∈ others, other.Same folder
  back : ∀ other ∈ others, ∃ folder ∈ folders, folder.Same other

theorem Innermost.le (innermost : Innermost others path other)
    (forth : ∀ folder ∈ folders, ∃ other ∈ others, other.Same folder)
    (inner : Innermost folders path folder) :
    folder.components.length ≤ other.components.length := by
  obtain ⟨twin, listed, same⟩ := forth folder inner.listed
  have bound := innermost.deepest twin listed (inner.contains.of_same same)
  rw [show twin.components = folder.components from same] at bound
  exact bound

/-- There is one innermost folder only. -/
theorem Innermost.same (alike : Alike folders others) (one : Innermost folders path folder)
    (two : Innermost others path other) : folder.Same other := by
  have le := two.le alike.forth one
  have ge := one.le alike.back two
  have front := List.prefix_of_prefix_length_le one.contains two.contains le
  exact front.eq_of_length (Nat.le_antisymm le ge)

end Path

namespace Document

/-! ## The choice -/

theorem deeper_some (best folder : Path) :
    ∃ chosen, deeper (some best) folder = some chosen ∧ (chosen = best ∨ chosen = folder) ∧
      best.components.length ≤ chosen.components.length ∧
      folder.components.length ≤ chosen.components.length := by
  rw [deeper]
  split
  · next more => exact ⟨folder, rfl, Or.inr rfl, more, Nat.le_refl _⟩
  · next fewer => exact ⟨best, rfl, Or.inl rfl, Nat.le_refl _, Nat.le_of_not_le fewer⟩

theorem foldl_deeper (best : Path) (folders : List Path) :
    ∃ deepest, folders.foldl deeper (some best) = some deepest ∧
      (deepest = best ∨ deepest ∈ folders) ∧
      best.components.length ≤ deepest.components.length ∧
      ∀ other ∈ folders, other.components.length ≤ deepest.components.length := by
  induction folders generalizing best with
  | nil => exact ⟨best, rfl, Or.inl rfl, Nat.le_refl _, by simp⟩
  | cons folder rest inductionHypothesis =>
      obtain ⟨chosen, next, among, first, second⟩ := deeper_some best folder
      obtain ⟨deepest, found, member, more, most⟩ := inductionHypothesis chosen
      refine ⟨deepest, by rw [List.foldl_cons, next, found], ?_, Nat.le_trans first more, ?_⟩
      · rcases member with rfl | later
        · rcases among with same | same
          · exact Or.inl same
          · rw [same]
            exact Or.inr List.mem_cons_self
        · exact Or.inr (List.mem_cons_of_mem folder later)
      · rw [List.forall_mem_cons]
        exact ⟨Nat.le_trans second more, most⟩

variable {document : Document} {folders others : List Path} {path folder : Path}

theorem folderIn?_of_unlocated (unlocated : document.localPath? = none) (folders : List Path) :
    document.folderIn? folders = none := by
  rw [folderIn?, unlocated]
  rfl

theorem folderIn?_of_located (located : document.localPath? = some path) (folders : List Path) :
    document.folderIn? folders =
      (folders.filter fun folder => path.StartsWith folder).foldl deeper none := by
  rw [folderIn?, located]
  rfl

/-- Either no folder contains the path, or the innermost one is found. -/
theorem folderIn?_cases (located : document.localPath? = some path) (folders : List Path) :
    (document.folderIn? folders = none ∧ ∀ folder ∈ folders, ¬ path.StartsWith folder) ∨
      ∃ folder, document.folderIn? folders = some folder ∧ Path.Innermost folders path folder := by
  have containing (folder : Path) :
      folder ∈ folders.filter (fun folder => path.StartsWith folder) ↔
        folder ∈ folders ∧ path.StartsWith folder := by simp
  rw [folderIn?_of_located located]
  generalize folders.filter (fun folder => path.StartsWith folder) = candidates at containing
  cases candidates with
  | nil =>
      refine Or.inl ⟨rfl, ?_⟩
      intro folder listed contains
      exact List.not_mem_nil ((containing folder).mpr ⟨listed, contains⟩)
  | cons first rest =>
      obtain ⟨deepest, found, member, more, most⟩ := foldl_deeper first rest
      have among : deepest ∈ first :: rest := List.mem_cons.mpr member
      obtain ⟨listed, contains⟩ := (containing deepest).mp among
      refine Or.inr ⟨deepest, found, listed, contains, ?_⟩
      intro other listed contains
      rcases List.mem_cons.mp ((containing other).mpr ⟨listed, contains⟩) with same | later
      · rw [same]
        exact more
      · exact most other later

/-- Which folder a document is said to lie in, given a list of folders. -/
structure UsesInnermost (document : Document) (folders : List Path) : Prop where
  /-- What is found is the innermost folder that contains the document. -/
  found : ∀ folder, document.folderIn? folders = some folder →
    ∃ path, document.localPath? = some path ∧ Path.Innermost folders path folder
  /-- Nothing is found only when no folder contains the document. -/
  missing : document.folderIn? folders = none ↔
    ∀ path, document.localPath? = some path → ∀ folder ∈ folders, ¬ path.StartsWith folder
  /-- In another list of the same folders the same one is found. -/
  alike : ∀ others, Path.Alike folders others →
    Option.Rel Path.Same (document.folderIn? folders) (document.folderIn? others)

theorem usesInnermost (document : Document) (folders : List Path) :
    document.UsesInnermost folders := by
  cases located : document.localPath? with
  | none =>
      have nothing := folderIn?_of_unlocated located
      constructor
      case found =>
        intro folder found
        rw [nothing] at found
        cases found
      case missing =>
        constructor
        · intro _ path here
          rw [located] at here
          cases here
        · intro _
          exact nothing folders
      case alike =>
        intro others _
        rw [nothing, nothing]
        exact Option.Rel.none
  | some path =>
      constructor
      case found =>
        intro folder found
        rcases folderIn?_cases located folders with ⟨none, -⟩ | ⟨other, same, innermost⟩
        · rw [none] at found
          cases found
        · rw [same] at found
          cases found
          exact ⟨path, located, innermost⟩
      case missing =>
        rcases folderIn?_cases located folders with ⟨none, outside⟩ | ⟨other, same, innermost⟩
        · refine ⟨?_, fun _ => none⟩
          intro _ path' here
          rw [located] at here
          cases here
          exact outside
        · constructor
          · intro none
            rw [same] at none
            cases none
          · intro outside
            exact absurd innermost.contains (outside path located other innermost.listed)
      case alike =>
        intro others alike
        rcases folderIn?_cases located folders with ⟨none, outside⟩ | ⟨folder, same, inner⟩
        · rcases folderIn?_cases located others with ⟨noneToo, -⟩ | ⟨other, -, innerToo⟩
          · rw [none, noneToo]
            exact Option.Rel.none
          · obtain ⟨twin, listed, twins⟩ := alike.back other innerToo.listed
            exact absurd (innerToo.contains.of_same twins) (outside twin listed)
        · rcases folderIn?_cases located others with ⟨-, outside⟩ | ⟨other, sameToo, innerToo⟩
          · obtain ⟨twin, listed, twins⟩ := alike.forth folder inner.listed
            exact absurd (inner.contains.of_same twins) (outside twin listed)
          · rw [same, sameToo]
            exact Option.Rel.some (inner.same alike innerToo)

/-- Of two spellings of one folder the later one is found. -/
example :
    let page : Document := ⟨⟨"file", none, .steps ["srv", "app", "a.html"], none, none⟩, "html",
      none, ""⟩
    page.folderIn? [.ofString "/srv/app", .ofString "/srv//app/", .ofString "/srv"] =
      some (.ofString "/srv//app/") := by
  decide +kernel

end Document

end TemplateLint
