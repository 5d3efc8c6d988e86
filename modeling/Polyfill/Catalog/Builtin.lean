import Polyfill.Catalog.Basic
import Polyfill.Template.Builtin.CodeAnalysis
import Polyfill.Template.Builtin.CompilerServices
import Polyfill.Template.Builtin.InteropServices
import Polyfill.Template.Builtin.Ranges
import Polyfill.Template.Builtin.RuntimeSupported

/-!
# The built-in catalog

The artifacts that can be generated without a template directory, each with its template.
-/

namespace Polyfill

namespace Template.Builtin

/-- The built-in templates of what the language needs, by artifact. -/
def languageSupport : List (String × String) := [
    ("System.Diagnostics.CodeAnalysis.AllowNullAttribute", allowNullAttribute),
    ("System.Diagnostics.CodeAnalysis.DisallowNullAttribute", disallowNullAttribute),
    ("System.Diagnostics.CodeAnalysis.DoesNotReturnAttribute", doesNotReturnAttribute),
    ("System.Diagnostics.CodeAnalysis.DoesNotReturnIfAttribute", doesNotReturnIfAttribute),
    ("System.Diagnostics.CodeAnalysis.MaybeNullAttribute", maybeNullAttribute),
    ("System.Diagnostics.CodeAnalysis.MaybeNullWhenAttribute", maybeNullWhenAttribute),
    ("System.Diagnostics.CodeAnalysis.MemberNotNullAttribute", memberNotNullAttribute),
    ("System.Diagnostics.CodeAnalysis.NotNullAttribute", notNullAttribute),
    ("System.Diagnostics.CodeAnalysis.NotNullIfNotNullAttribute", notNullIfNotNullAttribute),
    ("System.Diagnostics.CodeAnalysis.NotNullWhenAttribute", notNullWhenAttribute),
    ("System.Diagnostics.CodeAnalysis.SetsRequiredMembersAttribute", setsRequiredMembersAttribute),
    ("System.Diagnostics.CodeAnalysis.StringSyntaxAttribute", stringSyntaxAttribute),
    ("System.Diagnostics.CodeAnalysis.UnscopedRefAttribute", unscopedRefAttribute),
    ("System.Index", index),
    ("System.Range", range),
    ("System.Runtime.CompilerServices.CallerArgumentExpressionAttribute",
      callerArgumentExpressionAttribute),
    ("System.Runtime.CompilerServices.CollectionBuilderAttribute", collectionBuilderAttribute),
    ("System.Runtime.CompilerServices.CompilerFeatureRequiredAttribute",
      compilerFeatureRequiredAttribute),
    ("System.Runtime.CompilerServices.InlineArrayAttribute", inlineArrayAttribute),
    ("System.Runtime.CompilerServices.InterpolatedStringHandlerArgumentAttribute",
      interpolatedStringHandlerArgumentAttribute),
    ("System.Runtime.CompilerServices.InterpolatedStringHandlerAttribute",
      interpolatedStringHandlerAttribute),
    ("System.Runtime.CompilerServices.IsExternalInit", isExternalInit),
    ("System.Runtime.CompilerServices.ModuleInitializerAttribute", moduleInitializerAttribute),
    ("System.Runtime.CompilerServices.OverloadResolutionPriorityAttribute",
      overloadResolutionPriorityAttribute),
    ("System.Runtime.CompilerServices.RequiredMemberAttribute", requiredMemberAttribute),
    ("System.Runtime.CompilerServices.RequiresLocationAttribute", requiresLocationAttribute),
    ("System.Runtime.CompilerServices.SkipLocalsInitAttribute", skipLocalsInitAttribute),
    ("System.Runtime.InteropServices.UnmanagedCallersOnlyAttribute", unmanagedCallersOnlyAttribute)]

def runtimeSupported : List (String × String) := [
    ("System.Diagnostics.CodeAnalysis.RequiresDynamicCodeAttribute", requiresDynamicCodeAttribute),
    ("System.Diagnostics.CodeAnalysis.RequiresUnreferencedCodeAttribute",
      requiresUnreferencedCodeAttribute),
    ("System.Diagnostics.CodeAnalysis.UnconditionalSuppressMessageAttribute",
      unconditionalSuppressMessageAttribute),
    ("System.Diagnostics.StackTraceHiddenAttribute", stackTraceHiddenAttribute),
    ("System.Runtime.CompilerServices.DisableRuntimeMarshallingAttribute",
      disableRuntimeMarshallingAttribute),
    ("System.Runtime.Versioning.RequiresPreviewFeaturesAttribute",
      requiresPreviewFeaturesAttribute)]

def all : List (String × String) :=
  languageSupport ++ runtimeSupported

end Template.Builtin

namespace Catalog

def builtinCandidates : List Candidate :=
  Template.Builtin.languageSupport.map (⟨·.1, .languageSupport, .empty⟩) ++
    Template.Builtin.runtimeSupported.map (⟨·.1, .runtimeSupported, .empty⟩)

theorem builtinCandidates_nodup : (builtinCandidates.map (·.id)).Nodup := by
  decide +kernel

def builtin : Catalog :=
  ofDistinct builtinCandidates builtinCandidates_nodup

end Catalog

end Polyfill
