import Polyfill.Files.Basic
import Polyfill.Generation

/-!
# Template directories

A catalog can be read from a directory with one sub-directory for each category. Every file there holds
a template and is named for the artifact. The files are taken category by category and in ascending
order of their names, and the first one that cannot be taken is reported, so the order in which a
directory lists them does not matter.
-/

namespace Polyfill

open Text

namespace Artifact

/-- What the names of template files end in. -/
def templateExtension : List Char :=
  ".cs".toList

/-- Whether a text is a word of at least one character. -/
def isNamePart (part : List Char) : Bool :=
  !part.isEmpty && part.all isWord

/-- Whether a text is a qualified name: two or more words with dots between them. -/
def isQualified (name : List Char) : Bool :=
  let parts := pieces (· == '.') name
  2 ≤ parts.length && parts.all isNamePart

/-- The artifact that a template file is named for. -/
def ofFileName? (name : Octets) : Option String := do
  let chars := (← decode? name).toList
  let id := chars.take (chars.length - templateExtension.length)
  if templateExtension.isSuffixOf chars && isQualified id then some (String.ofList id) else none

end Artifact

/-- What a template directory holds: templates with their candidates, whose ids are distinct. -/
structure TemplateDirectory where
  entries : List (Candidate × String)
  ids_nodup : (entries.map (·.1.id)).Nodup

namespace TemplateDirectory

def empty : TemplateDirectory :=
  ⟨[], .nil⟩

def ids (directory : TemplateDirectory) : List String :=
  directory.entries.map (·.1.id)

/-- A directory with one more template, for a candidate with a new id. -/
def add (directory : TemplateDirectory) (candidate : Candidate) (text : String)
    (h : candidate.id ∉ directory.ids) : TemplateDirectory where
  entries := directory.entries ++ [(candidate, text)]
  ids_nodup := by
    rw [List.map_append]
    refine List.nodup_append.mpr ⟨directory.ids_nodup, by simp, ?_⟩
    intro id member other same equal
    simp only [List.map_cons, List.map_nil, List.mem_singleton] at same
    exact h (same ▸ equal ▸ member)

def candidates (directory : TemplateDirectory) : List Candidate :=
  directory.entries.map (·.1)

theorem candidates_nodup (directory : TemplateDirectory) :
    (directory.candidates.map (·.id)).Nodup := by
  simpa [candidates, Function.comp_def] using directory.ids_nodup

def catalog (directory : TemplateDirectory) : Catalog :=
  .ofDistinct directory.candidates directory.candidates_nodup

def templates (directory : TemplateDirectory) : Templates :=
  .ofList (directory.entries.map fun (candidate, text) => (candidate.id, text))

def generator (directory : TemplateDirectory) : Generator where
  catalog := directory.catalog
  templates := directory.templates
  forwardCandidates := TypeForward.builtinCandidates

/-- Why a template directory cannot be used. -/
inductive Fault where
  /-- A file is not named for an artifact. -/
  | invalidName (category : Category) (name : Octets)
  | notText
  /-- Both categories have the same artifact. -/
  | duplicate (shared : DuplicateArtifact)
  deriving DecidableEq, Repr

def categoryPath (root : String) (category : Category) : String :=
  Path.join root category.directory

def Fault.message (root : String) : Fault → String
  | .invalidName category name =>
    "Invalid template name: " ++ Path.join (categoryPath root category) (decodeLossy name)
  | .notText => "IO error: " ++ FileFault.notText.message
  | .duplicate shared => shared.message

/-- Take one file. Its name counts before what it holds. -/
def takeFile (category : Category) (directory : TemplateDirectory) (file : Octets × Octets) :
    Except Fault TemplateDirectory :=
  match Artifact.ofFileName? file.1 with
  | none => .error (.invalidName category file.1)
  | some id =>
    match decode? file.2 with
    | none => .error .notText
    | some text =>
      let candidate : Candidate := { id, category }
      if h : candidate.id ∈ directory.ids then .error (.duplicate ⟨id⟩)
      else .ok (directory.add candidate text h)

/-- Take the files of a category; directories between them are passed over. -/
def takeCategory (listing : Category → List (Octets × Entry)) (directory : TemplateDirectory)
    (category : Category) : Except Fault TemplateDirectory :=
  (Files.sorted (listing category)).foldlM (takeFile category) directory

/-- The template directory of which the sub-directories of both categories hold what is listed. -/
def ofListing (listing : Category → List (Octets × Entry)) : Except Fault TemplateDirectory :=
  Category.all.foldlM (takeCategory listing) .empty

end TemplateDirectory

end Polyfill
