import Polyfill.Fixup

/-!
# Artifacts

An artifact is a type that a program may miss in its target environment and that can be generated
instead. It is known by its fully qualified name. This module holds the names that matter to the
rules of selection, the two categories, and the names of generated sources.
-/

namespace Polyfill

namespace Artifact

/-- The attribute on methods that native code calls; it can move to an alternate namespace. -/
def nativeCall : String := "System.Runtime.InteropServices.UnmanagedCallersOnlyAttribute"

/-- The attribute on inline arrays; it lives in an alternate namespace and wants a global alias. -/
def inlineArray : String := "System.Runtime.CompilerServices.InlineArrayAttribute"

def index : String := "System.Index"

def range : String := "System.Range"

/-- The tuple type that the range type is written with. -/
def rangeTuple : String := "System.ValueTuple`2"

def coverageExclusion : String :=
  "System.Diagnostics.CodeAnalysis.ExcludeFromCodeCoverageAttribute"

/-- The option that the hints at method compilation name. -/
def aggressiveInlining : String :=
  "System.Runtime.CompilerServices.MethodImplOptions.AggressiveInlining"

def embeddedMarker : String := "Microsoft.CodeAnalysis.EmbeddedAttribute"

/-- What the names of generated sources end in, after a dot. -/
def generatedSuffix : String := "g.cs"

def sourceName (id : String) : String :=
  id ++ "." ++ generatedSuffix

end Artifact

inductive Category where
  /-- What the language itself needs; generated by default. -/
  | languageSupport
  /-- What a runtime normally provides; generated on demand. -/
  | runtimeSupported
  deriving DecidableEq, Repr

namespace Category

def all : List Category :=
  [languageSupport, runtimeSupported]

/-- The place of a category in catalog order. -/
def rank : Category → Nat
  | languageSupport => 0
  | runtimeSupported => 1

def name : Category → String
  | languageSupport => "LanguageSupport"
  | runtimeSupported => "RuntimeSupported"

def directory : Category → String
  | languageSupport => "language_support"
  | runtimeSupported => "runtime_supported"

def ofName? (name : String) : Option Category :=
  all.find? (·.name == name)

theorem ofName?_name (category : Category) : ofName? category.name = some category := by
  cases category <;> decide

theorem rank_injective {a b : Category} (h : a.rank = b.rank) : a = b := by
  cases a <;> cases b <;> simp_all [rank]

end Category

/-- An artifact that can be generated. -/
structure Candidate where
  /-- The fully qualified name. -/
  id : String
  category : Category
  /-- The fixups that the artifact always needs. -/
  intrinsicFixups : FixupSet := .empty
  deriving DecidableEq, Repr

end Polyfill
