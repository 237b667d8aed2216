import TemplateLint.Proofs.Files
import TemplateLint.Proofs.WrittenValues
import TemplateLint.Suppression.Store

/-!
# Choices are read back as they were written

The folders of choices ascend, so that reading, which sorts them, leaves them as they are.  A store
that is opened on a file therefore holds the choices that were last written to it.
Main exports: `Choices.Ordered`, `Choices.read?_text`, `Choices.read?_ordered`,
`Store.readChoices_save`.
-/

namespace TemplateLint

/-! ## Choices -/

namespace Choices

/-- The members of a kept text, as they stand there. -/
def members (choices : Choices) : Members :=
  [(everywhereKey, .bool choices.everywhere), (foldersKey, .array (choices.folders.map Json.text))]

/-- The kept text has the members of the choices, and no others. -/
theorem readMembers?_text (choices : Choices) :
    Json.readMembers? choices.text = some choices.members := by
  obtain ⟨everywhere, folders⟩ := choices
  let array := Json.prettyChars (0 + 1) (.array (folders.map Json.text))
  let second := Json.quoted foldersKey ++ ':' :: ' ' :: (array ++ (Json.lineBreak 0 ++ ['}']))
  let first := Json.quoted everywhereKey ++ ':' :: ' ' :: (Json.prettyChars (0 + 1)
    (.bool everywhere) ++ ',' :: (Json.lineBreak (0 + 1) ++ second))
  have chars : (Choices.text ⟨everywhere, folders⟩).toList =
      '{' :: (Json.lineBreak (0 + 1) ++ first) := by
    rw [Choices.text, toJson, Json.pretty, String.toList_ofList, Json.prettyChars,
      Json.prettyMembers, Json.prettyMembers]
    simp only [List.append_assoc, List.cons_append, first, second, array]
  have long : folders.length ≤ (Json.lineBreak (0 + 1) ++ first).length := by
    have items : folders.length ≤ array.length := Json.length_le_prettyChars (0 + 1) folders
    simp only [first, second, List.length_append, List.length_cons]
    omega
  -- The second member is the last one, and the first one stands before it.
  have last (fuel : Nat) (enough : folders.length + 1 < fuel) :
      Json.scanMemberList (fuel + 1) 126 (Json.skipBlanks (Json.lineBreak (0 + 1) ++ second)) =
        some ([(foldersKey, .array (folders.map Json.text))], []) := by
    have starts : Json.skipBlanks (Json.lineBreak (0 + 1) ++ second) = second :=
      Json.skipBlanks_quoted (0 + 1) foldersKey _
    rw [starts]
    refine Json.scanMemberList_last 0 ?_
    rw [Json.skipBlanks_array]
    exact Json.scanValue_texts 125 (0 + 1) folders _ enough
  have both (fuel : Nat) (enough : folders.length + 1 < fuel) :
      Json.scanMemberList (fuel + 2) 126 first =
        some ((⟨everywhere, folders⟩ : Choices).members, []) := by
    refine Json.scanMemberList_more ?_ (last fuel enough)
    rw [Json.skipBlanks_bool]
    exact Json.scanValue_bool fuel 126 (0 + 1) everywhere _
  have opens : Json.skipBlanks (Json.lineBreak (0 + 1) ++ first) = first :=
    Json.skipBlanks_quoted (0 + 1) everywhereKey _
  obtain ⟨fuel, length, enough⟩ : ∃ fuel,
      3 * (Choices.text ⟨everywhere, folders⟩).toList.length + 3 = fuel + 3 ∧
        folders.length + 1 < fuel := by
    refine ⟨_, rfl, ?_⟩
    rw [chars, List.length_cons]
    omega
  have scanned : Json.scanMembers (fuel + 3) 126 (Json.lineBreak (0 + 1) ++ first) =
      some ((⟨everywhere, folders⟩ : Choices).members, []) :=
    (Json.scanMembers_quote opens).trans (both fuel enough)
  have brace : Json.skipBlanks ('{' :: (Json.lineBreak (0 + 1) ++ first)) =
      '{' :: (Json.lineBreak (0 + 1) ++ first) := rfl
  simp only [Json.readMembers?, length]
  rw [chars, brace]
  simp only [Json.depthLimit, scanned, Option.bind_eq_bind, Option.bind_some]
  rfl

/-! ### The order of the folders -/

/-- The folders ascend, so that each is there once. -/
def Ordered (choices : Choices) : Prop :=
  choices.folders.Pairwise (· < ·)

theorem mem_insertFolder {folder other : String} {folders : List String} :
    other ∈ insertFolder folder folders ↔ other = folder ∨ other ∈ folders := by
  induction folders with
  | nil => simp [insertFolder]
  | cons first rest inductionHypothesis =>
      unfold insertFolder
      split
      · next same => simp [same]
      · split
        · simp
        · simp only [List.mem_cons, inductionHypothesis]
          exact or_left_comm

theorem insertFolder_ordered {folder : String} {folders : List String}
    (ordered : folders.Pairwise (· < ·)) : (insertFolder folder folders).Pairwise (· < ·) := by
  induction folders with
  | nil => simp [insertFolder]
  | cons first rest inductionHypothesis =>
      rw [List.pairwise_cons] at ordered
      obtain ⟨least, ascends⟩ := ordered
      unfold insertFolder
      split
      · exact List.pairwise_cons.mpr ⟨least, ascends⟩
      · next different =>
          split
          · next smaller =>
              have rest := List.pairwise_cons.mpr ⟨least, ascends⟩
              refine List.pairwise_cons.mpr ⟨fun other member => ?_, rest⟩
              rcases List.mem_cons.mp member with rfl | later
              · exact smaller
              · exact String.lt_trans smaller (least other later)
          · next larger =>
              refine List.pairwise_cons.mpr ⟨fun other member => ?_, inductionHypothesis ascends⟩
              rcases mem_insertFolder.mp member with rfl | later
              · refine Decidable.byContradiction fun before => different ?_
                exact String.le_antisymm (String.not_lt.mp before) (String.not_lt.mp larger)
              · exact least other later

/-- A folder beyond all others comes last. -/
theorem insertFolder_last {folder : String} {folders : List String}
    (beyond : ∀ other ∈ folders, other < folder) :
    insertFolder folder folders = folders ++ [folder] := by
  induction folders with
  | nil => rfl
  | cons first rest inductionHypothesis =>
      have smaller := beyond first (by simp)
      have different : folder ≠ first := fun same => String.lt_irrefl _ (same ▸ smaller)
      rw [insertFolder, if_neg different, if_neg (String.lt_asymm smaller),
        inductionHypothesis fun other member => beyond other (by simp [member])]
      rfl

theorem insertAll_of_ordered {sorted folders : List String}
    (ordered : (sorted ++ folders).Pairwise (· < ·)) :
    folders.foldl (fun sorted folder => insertFolder folder sorted) sorted = sorted ++ folders := by
  induction folders generalizing sorted with
  | nil => simp
  | cons first rest inductionHypothesis =>
      have beyond : ∀ other ∈ sorted, other < first := fun other member =>
        (List.pairwise_append.mp ordered).2.2 other member first (by simp)
      rw [List.foldl_cons, insertFolder_last beyond, inductionHypothesis]
      · simp
      · simpa using ordered

theorem insertAll_ordered {sorted folders : List String} (ordered : sorted.Pairwise (· < ·)) :
    (folders.foldl (fun sorted folder => insertFolder folder sorted) sorted).Pairwise (· < ·) := by
  induction folders generalizing sorted with
  | nil => exact ordered
  | cons first rest inductionHypothesis => exact inductionHypothesis (insertFolder_ordered ordered)

theorem nothing_ordered : nothing.Ordered := List.Pairwise.nil

theorem addFolder_ordered {choices : Choices} (ordered : choices.Ordered) (folder : String) :
    (choices.addFolder folder).Ordered :=
  insertFolder_ordered ordered

/-! ### Reading -/

theorem mapM_text? (folders : List String) :
    (folders.map Json.text).mapM Json.text? = some folders := by
  induction folders with
  | nil => rfl
  | cons first rest inductionHypothesis =>
      simp [List.mapM_cons, inductionHypothesis, Json.text?]

theorem readFolders?_texts {folders : List String} (ordered : folders.Pairwise (· < ·)) :
    readFolders? (.array (folders.map Json.text)) = some folders := by
  have kept := insertAll_of_ordered (List.nil_append folders ▸ ordered)
  rw [List.nil_append] at kept
  simp only [readFolders?, mapM_text?, Option.bind_eq_bind, Option.bind_some, kept]

/-- What was written is read back. -/
theorem read?_text {choices : Choices} (ordered : choices.Ordered) :
    read? choices.text = some choices := by
  have folders := readFolders?_texts ordered
  have everywhere : single? everywhereKey readFlag? false choices.members =
      some choices.everywhere := rfl
  have inFolders : single? foldersKey readFolders? [] choices.members = some choices.folders :=
    folders
  rw [read?, readMembers?_text]
  simp only [ofMembers?, everywhere, inFolders, Option.bind_eq_bind, Option.bind_some]

theorem readFolders?_ordered {value : Json} {folders : List String}
    (read : readFolders? value = some folders) : folders.Pairwise (· < ·) := by
  cases value with
  | array items =>
      obtain ⟨texts, -, same⟩ := Option.bind_eq_some_iff.mp read
      cases same
      exact insertAll_ordered List.Pairwise.nil
  | _ => cases read

theorem ofMembers?_ordered {members : Members} {choices : Choices}
    (read : ofMembers? members = some choices) : choices.Ordered := by
  obtain ⟨everywhere, -, rest⟩ := Option.bind_eq_some_iff.mp read
  obtain ⟨folders, held, same⟩ := Option.bind_eq_some_iff.mp rest
  cases same
  unfold single? at held
  split at held
  · cases held
    exact List.Pairwise.nil
  · exact readFolders?_ordered held
  · cases held

theorem ofItems?_ordered {items : List Json} {choices : Choices}
    (read : ofItems? items = some choices) : choices.Ordered := by
  unfold ofItems? at read
  split at read
  · cases read
    exact nothing_ordered
  · obtain ⟨everywhere, -, same⟩ := Option.bind_eq_some_iff.mp read
    cases same
    exact List.Pairwise.nil
  · obtain ⟨everywhere, -, rest⟩ := Option.bind_eq_some_iff.mp read
    obtain ⟨folders, held, same⟩ := Option.bind_eq_some_iff.mp rest
    cases same
    exact readFolders?_ordered held
  · cases read

/-- What is read is in order, whatever the text says. -/
theorem read?_ordered {text : String} {choices : Choices} (read : read? text = some choices) :
    choices.Ordered := by
  unfold read? at read
  split at read
  · exact ofMembers?_ordered read
  · split at read
    · exact ofItems?_ordered read
    · cases read

end Choices

/-! ## Stores -/

namespace Store

variable {disk next : Disk} {file : Path} {choices : Choices}

theorem readChoices_ordered (disk : Disk) (file : Path) : (readChoices disk file).Ordered := by
  unfold readChoices
  split
  · next text read =>
      cases choices : Choices.read? text with
      | none => exact Choices.nothing_ordered
      | some choices => exact Choices.read?_ordered choices
  · exact Choices.nothing_ordered

theorem record_ordered {store : Store} (ordered : store.choices.Ordered) (scope : Scope) :
    (store.record scope).choices.Ordered := by
  cases scope with
  | everywhere => exact ordered
  | folder path => exact Choices.addFolder_ordered ordered path.display

/-- A file holds the choices that were written to it. -/
theorem readChoices_save (ordered : choices.Ordered)
    (saved : save (some file) choices disk = .ok next) : readChoices next file = choices := by
  obtain ⟨made, written⟩ : ∃ made : Disk, made.write file choices.text.toUTF8 = .ok next := by
    simp only [save] at saved
    split at saved
    · obtain ⟨made, -, written⟩ := of_bind_eq_ok saved
      exact ⟨made, written⟩
    · exact ⟨disk, saved⟩
  rw [readChoices, Disk.readText_write written]
  simp only [Choices.read?_text ordered, Option.getD_some]

end Store

end TemplateLint
