/-
# Project context

Project instructions reach a prompt as a label, a text and files.  Every text is sanitised as it
enters, a file whose path does not stay within the project or names a credential is dropped, and of
several files with one path the one with the smallest content is kept.  The files are in the order
of their paths, whatever order they came in.
-/

import HermesClaude.Library.Smallest
import HermesClaude.Prompt.SafeText
import Mathlib.Data.Prod.Lex
import Mathlib.Data.List.Lex

namespace HermesClaude.Prompt

open HermesClaude.Library HermesClaude.Python

/-- A value that a text is made of: `str(value)`, or `none` for `None`, a mapping or a sequence that
is no text. -/
abbrev Field := Option PyStr

def defaultFragmentMaxChars : Nat := 8000

def defaultTotalMaxChars : Nat := 22000

section Sanitising

variable (unicode : WordDatabase)

/-- `_safe_text`. -/
def safeField (value : Field) (limit : Int) : PyStr :=
  match value with
  | none => []
  | some text => safeText unicode text limit

/-- `_safe_relative_path`. -/
def safeRelativePath (value : Field) : PyStr :=
  let path := (safeField unicode value 240).map fun c => if c = 0x5C then 0x2F else c
  if path = [] ∨ path.head? = some 0x2F ∨ path.head? = some 0x7E then []
  else
    let components := path.splitOn 0x2F
    if components.any fun component => [[], lit ".", lit ".."].contains component then []
    else if components.any (Regex.search unicode.isWord sensitiveKey) then []
    else path

end Sanitising

/-- `ProjectFile`: a file of the project, both fields sanitised. -/
structure ProjectFile where
  path : PyStr
  content : PyStr
  deriving DecidableEq

/-- A mapping that describes a file, by what `get` finds in it. -/
structure FileMapping where
  path : Option Field
  name : Option Field
  content : Option Field
  text : Option Field

/-- An entry of the files. -/
inductive RawFile
  | /-- `ProjectFile(path=path, content=content)` -/
    file (path content : Field)
  | mapping (value : FileMapping)
  | other

/-- The files as they are given. -/
inductive RawFiles
  | /-- The contents by their paths. -/
    mapping (items : List (Field × Field))
  | sequence (items : List RawFile)
  | other

/-- The entries that are read. -/
def RawFiles.items : RawFiles → List RawFile
  | .mapping items => items.map fun item => .mapping ⟨some item.1, none, some item.2, none⟩
  | .sequence items => items
  | .other => []

/-- The same entries in another order. -/
inductive RawFiles.Reordered : RawFiles → RawFiles → Prop
  | mapping {items items' : List (Field × Field)} (hperm : items.Perm items') :
      Reordered (.mapping items) (.mapping items')
  | sequence {items items' : List RawFile} (hperm : items.Perm items') :
      Reordered (.sequence items) (.sequence items')
  | other : Reordered .other .other

/-- `key=lambda item: (item.path, item.content)`. -/
def fileKey (file : ProjectFile) : PyStr ×ₗ PyStr := toLex (file.path, file.content)

section Files

variable (unicode : WordDatabase)

/-- `ProjectFile.__post_init__`. -/
def projectFile (path content : Field) : ProjectFile where
  path := safeRelativePath unicode path
  content := safeField unicode content defaultFragmentMaxChars

/-- `_coerce_project_file`. -/
def coerceProjectFile (value : RawFile) : Option ProjectFile :=
  match value with
  | .file path content =>
    let file := projectFile unicode path content
    if file.path = [] then none else some file
  | .mapping value =>
    let path := value.path.getD (value.name.getD (some []))
    let content := value.content.getD (value.text.getD (some []))
    let candidate := projectFile unicode path content
    if candidate.path = [] then none else some candidate
  | .other => none

/-- The files of `ProjectMetadata.__post_init__`: one of every path, in their order. -/
def projectFiles (raw : RawFiles) : List ProjectFile :=
  sortByKey fileKey (smallestPerKey ProjectFile.path ProjectFile.content
    (raw.items.filterMap (coerceProjectFile unicode)))

end Files

/-- A path and a content are a file. -/
theorem keysAgree_file (files : List ProjectFile) :
    KeysAgree (fun file => (file.path, file.content)) files := by
  intro a _ b _ heq
  cases a
  cases b
  cases heq
  rfl

theorem nodup_fileKey {files : List ProjectFile} (h : (files.map ProjectFile.path).Nodup) :
    (files.map fileKey).Nodup := by
  apply List.Nodup.of_map fun key => (ofLex key).1
  rw [List.map_map]
  exact h

variable {unicode : WordDatabase}

theorem inOrder_projectFiles (raw : RawFiles) :
    InKeyOrder ProjectFile.path (projectFiles unicode raw) := by
  have hkept := smallest_smallestPerKey ProjectFile.path ProjectFile.content
    (raw.items.filterMap (coerceProjectFile unicode))
  have horder := inKeyOrder_sortByKey (nodup_fileKey hkept.nodup)
  have hsorted : (projectFiles unicode raw).Perm (smallestPerKey ProjectFile.path ProjectFile.content
      (raw.items.filterMap (coerceProjectFile unicode))) := perm_sortByKey _
  have hpaths := (hsorted.map ProjectFile.path).nodup_iff.mpr hkept.nodup
  rw [List.Nodup, List.pairwise_map] at hpaths
  apply (horder.and hpaths).imp
  intro a b h
  rcases Prod.Lex.toLex_lt_toLex.mp h.1 with hlt | hsame
  · exact hlt
  · exact absurd hsame.1 h.2

/-- **The order of the files does not matter.** -/
theorem projectFiles_reordered {raw raw' : RawFiles} (h : raw.Reordered raw') :
    projectFiles unicode raw = projectFiles unicode raw' := by
  have hitems : raw.items.Perm raw'.items := by
    cases h with
    | mapping hperm => exact hperm.map _
    | sequence hperm => exact hperm
    | other => exact List.Perm.refl _
  have hfiles := hitems.filterMap (coerceProjectFile unicode)
  apply sortByKey_eq_of_perm
  · exact nodup_fileKey (smallest_smallestPerKey _ _ _).nodup
  · exact smallestPerKey_perm (keysAgree_file _) hfiles

/-! ## Metadata -/

/-- `ProjectMetadata`. -/
structure ProjectMetadata where
  label : PyStr
  instructions : PyStr
  files : List ProjectFile
  inOrder : InKeyOrder ProjectFile.path files

/-- A mapping that describes a project, by what `get` finds in it. -/
structure ProjectMapping where
  label : Option Field
  name : Option Field
  instructions : Option Field
  content : Option Field
  files : Option RawFiles

/-- The project as it is given to a snapshot. -/
inductive RawProject
  | /-- `ProjectMetadata(label=label, instructions=instructions, files=files)` -/
    metadata (label instructions : Field) (files : RawFiles)
  | mapping (value : ProjectMapping)
  | other

/-- The same project with its files in another order. -/
inductive RawProject.Reordered : RawProject → RawProject → Prop
  | metadata (label instructions : Field) {files files' : RawFiles} (hfiles : files.Reordered files') :
      Reordered (.metadata label instructions files) (.metadata label instructions files')
  | mapping {value : ProjectMapping} {files files' : RawFiles} (hfiles : files.Reordered files') :
      Reordered (.mapping { value with files := some files })
        (.mapping { value with files := some files' })
  | refl (raw : RawProject) : Reordered raw raw

section Metadata

variable (unicode : WordDatabase)

/-- `ProjectMetadata.__post_init__`. -/
def projectMetadata (label instructions : Field) (files : RawFiles) : ProjectMetadata where
  label := safeField unicode label 240
  instructions := safeField unicode instructions defaultFragmentMaxChars
  files := projectFiles unicode files
  inOrder := inOrder_projectFiles files

/-- `ProjectMetadata.from_mapping`. -/
def ProjectMapping.metadata (value : ProjectMapping) : ProjectMetadata :=
  projectMetadata unicode (value.label.getD (value.name.getD (some [])))
    (value.instructions.getD (value.content.getD (some []))) (value.files.getD (.sequence []))

/-- The project of a snapshot. -/
def RawProject.resolve : RawProject → ProjectMetadata
  | .metadata label instructions files => projectMetadata unicode label instructions files
  | .mapping value => value.metadata unicode
  | .other => projectMetadata unicode (some []) (some []) (.sequence [])

end Metadata

theorem projectMetadata_reordered (label instructions : Field) {files files' : RawFiles}
    (h : files.Reordered files') :
    projectMetadata unicode label instructions files =
      projectMetadata unicode label instructions files' := by
  simp only [projectMetadata, projectFiles_reordered h]

theorem RawProject.Reordered.resolve (unicode : WordDatabase) {raw raw' : RawProject}
    (h : raw.Reordered raw') :
    raw.resolve unicode = raw'.resolve unicode := by
  cases h with
  | metadata label instructions hfiles => exact projectMetadata_reordered label instructions hfiles
  | mapping hfiles => exact projectMetadata_reordered _ _ hfiles
  | refl => rfl

/-- `ProjectMetadata.render`. -/
def ProjectMetadata.render (project : ProjectMetadata) (maxChars : Int) : PyStr :=
  if maxChars ≤ 0 then []
  else
    let sections :=
      (if project.label = [] then [] else [lit "## " ++ project.label]) ++
      (if project.instructions = [] then [] else [project.instructions]) ++
      project.files.map fun file => lit "## " ++ file.path ++ lit "\n\n" ++ file.content
    if sections = [] then []
    else (lit "# Project Context\n\n" ++ (lit "\n\n").intercalate sections).take maxChars.toNat

end HermesClaude.Prompt
