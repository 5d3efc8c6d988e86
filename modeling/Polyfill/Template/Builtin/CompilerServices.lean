import Polyfill.Template.Builtin.Heading

/-!
# Templates for compiler services

The texts of the attributes and types that the compiler itself looks for.
-/

namespace Polyfill.Template.Builtin

def callerArgumentExpressionAttribute : String :=
  withHeading [
    "namespace System.Runtime.CompilerServices",
    "\x7b",
    "    /// <summary>",
    "    /// Indicates that a parameter captures the expression passed for another parameter " ++
      "as a string.",
    "    /// </summary>",
    "    [global::System.AttributeUsage(global::System.AttributeTargets.Parameter, " ++
      "AllowMultiple = false, Inherited = false)]",
    "    [global::System.Diagnostics.CodeAnalysis.ExcludeFromCodeCoverage]",
    "    [global::Microsoft.CodeAnalysis.Embedded]",
    "    internal sealed class CallerArgumentExpressionAttribute : global::System.Attribute",
    "    \x7b",
    "        /// <summary>",
    "        /// Initializes a new instance of the <see " ++
      "cref=\"CallerArgumentExpressionAttribute\"/> class.",
    "        /// </summary>",
    "        /// <param name=\"parameterName\">The name of the parameter whose expression " ++
      "should be captured as a string.</param>",
    "        public CallerArgumentExpressionAttribute(string parameterName)",
    "        \x7b",
    "            ParameterName = parameterName;",
    "        \x7d",
    "",
    "        /// <summary>",
    "        /// Gets the name of the parameter whose expression should be captured as a string.",
    "        /// </summary>",
    "        public string ParameterName \x7b get; \x7d",
    "    \x7d",
    "\x7d",
    ""]

def collectionBuilderAttribute : String :=
  withHeading [
    "namespace System.Runtime.CompilerServices",
    "\x7b",
    "    /// <summary>",
    "    /// Specifies the builder type and method used to construct a collection type from " ++
      "a collection expression.",
    "    /// </summary>",
    "    [global::System.AttributeUsage(global::System.AttributeTargets.Class | " ++
      "global::System.AttributeTargets.Struct | global::System.AttributeTargets.Interface, " ++
      "Inherited = false)]",
    "    [global::System.Diagnostics.CodeAnalysis.ExcludeFromCodeCoverage]",
    "    [global::Microsoft.CodeAnalysis.Embedded]",
    "    internal sealed class CollectionBuilderAttribute : global::System.Attribute",
    "    \x7b",
    "        /// <summary>",
    "        /// Initializes a new instance of the <see " ++
      "cref=\"CollectionBuilderAttribute\"/> class.",
    "        /// </summary>",
    "        /// <param name=\"builderType\">The type of the builder to use to construct the " ++
      "collection.</param>",
    "        /// <param name=\"methodName\">The name of the method on the builder to use to " ++
      "construct the collection.</param>",
    "        public CollectionBuilderAttribute(global::System.Type builderType, string " ++
      "methodName)",
    "        \x7b",
    "            BuilderType = builderType;",
    "            MethodName = methodName;",
    "        \x7d",
    "",
    "        /// <summary>",
    "        /// Gets the type of the builder to use to construct the collection.",
    "        /// </summary>",
    "        public global::System.Type BuilderType \x7b get; \x7d",
    "",
    "        /// <summary>",
    "        /// Gets the name of the method on the builder to use to construct the collection.",
    "        /// </summary>",
    "        public string MethodName \x7b get; \x7d",
    "    \x7d",
    "\x7d",
    ""]

def compilerFeatureRequiredAttribute : String :=
  withHeading [
    "namespace System.Runtime.CompilerServices",
    "\x7b",
    "    /// <summary>",
    "    /// Indicates that compiler support for a particular feature is required for the " ++
      "location where this attribute is applied.",
    "    /// </summary>",
    "    [global::System.AttributeUsage(global::System.AttributeTargets.All, AllowMultiple = " ++
      "true, Inherited = false)]",
    "    [global::System.Diagnostics.CodeAnalysis.ExcludeFromCodeCoverage]",
    "    [global::Microsoft.CodeAnalysis.Embedded]",
    "    internal sealed class CompilerFeatureRequiredAttribute : global::System.Attribute",
    "    \x7b",
    "        /// <summary>",
    "        /// Initializes a new instance of the <see " ++
      "cref=\"CompilerFeatureRequiredAttribute\"/> type.",
    "        /// </summary>",
    "        /// <param name=\"featureName\">The name of the required compiler feature.</param>",
    "        public CompilerFeatureRequiredAttribute(string featureName)",
    "        \x7b",
    "            FeatureName = featureName;",
    "        \x7d",
    "",
    "        /// <summary>",
    "        /// The name of the compiler feature.",
    "        /// </summary>",
    "        public string FeatureName \x7b get; \x7d",
    "",
    "        /// <summary>",
    "        /// If true, the compiler can choose to allow access to the location where this " ++
      "attribute is applied if it does not understand <see cref=\"FeatureName\"/>.",
    "        /// </summary>",
    "        public bool IsOptional \x7b get; init; \x7d",
    "    \x7d",
    "\x7d",
    ""]

def inlineArrayAttribute : String :=
  withHeading [
    "namespace System.Runtime.CompilerServices2",
    "\x7b",
    "    /// <summary>",
    "    /// Indicates that the instance's storage is sequentially replicated \"length\" times.",
    "    /// </summary>",
    "    [global::System.AttributeUsage(global::System.AttributeTargets.Struct, " ++
      "AllowMultiple = false)]",
    "    [global::System.Diagnostics.CodeAnalysis.ExcludeFromCodeCoverage]",
    "    [global::Microsoft.CodeAnalysis.Embedded]",
    "    internal sealed class InlineArrayAttribute : global::System.Attribute",
    "    \x7b",
    "        /// <summary>",
    "        /// Creates a new <see cref=\"InlineArrayAttribute\"/> instance with the " ++
      "specified length.",
    "        /// </summary>",
    "        /// <param name=\"length\">The number of sequential fields to replicate in the " ++
      "inline array type.</param>",
    "        public InlineArrayAttribute(int length)",
    "        \x7b",
    "            Length = length;",
    "        \x7d",
    "",
    "        /// <summary>",
    "        /// Gets the number of sequential fields to replicate in the inline array type.",
    "        /// </summary>",
    "        public int Length \x7b get; \x7d",
    "    \x7d",
    "\x7d",
    ""]

def interpolatedStringHandlerArgumentAttribute : String :=
  withHeading [
    "namespace System.Runtime.CompilerServices",
    "\x7b",
    "    /// <summary>",
    "    /// Indicates which arguments to a method involving an interpolated string handler " ++
      "should be passed to that handler.",
    "    /// </summary>",
    "    [global::System.AttributeUsage(global::System.AttributeTargets.Parameter, " ++
      "AllowMultiple = false, Inherited = false)]",
    "    [global::System.Diagnostics.CodeAnalysis.ExcludeFromCodeCoverage]",
    "    [global::Microsoft.CodeAnalysis.Embedded]",
    "    internal sealed class InterpolatedStringHandlerArgumentAttribute : " ++
      "global::System.Attribute",
    "    \x7b",
    "        /// <summary>",
    "        /// Initializes a new instance of the <see " ++
      "cref=\"InterpolatedStringHandlerArgumentAttribute\"/> class.",
    "        /// </summary>",
    "        /// <param name=\"arguments\">The names of the arguments that should be passed " ++
      "to the handler.</param>",
    "        public InterpolatedStringHandlerArgumentAttribute(params string[] arguments)",
    "        \x7b",
    "            Arguments = arguments;",
    "        \x7d",
    "",
    "        /// <summary>",
    "        /// Gets the names of the arguments that should be passed to the handler.",
    "        /// </summary>",
    "        public string[] Arguments \x7b get; \x7d",
    "    \x7d",
    "\x7d",
    ""]

def interpolatedStringHandlerAttribute : String :=
  withHeading [
    "namespace System.Runtime.CompilerServices",
    "\x7b",
    "    /// <summary>",
    "    /// Indicates the attributed type is to be used as an interpolated string handler.",
    "    /// </summary>",
    "    [global::System.AttributeUsage(global::System.AttributeTargets.Class | " ++
      "global::System.AttributeTargets.Struct, AllowMultiple = false, Inherited = false)]",
    "    [global::System.Diagnostics.CodeAnalysis.ExcludeFromCodeCoverage]",
    "    [global::Microsoft.CodeAnalysis.Embedded]",
    "    internal sealed class InterpolatedStringHandlerAttribute : global::System.Attribute",
    "    \x7b",
    "    \x7d",
    "\x7d",
    ""]

def isExternalInit : String :=
  withHeading [
    "namespace System.Runtime.CompilerServices",
    "\x7b",
    "    /// <summary>",
    "    /// Reserved to be used by the compiler for tracking metadata.",
    "    /// This class should not be used by developers in source code.",
    "    /// </summary>",
    "    [global::System.ComponentModel.EditorBrowsable(global::System.ComponentModel.EditorBrowsableState.Never)]",
    "    [global::System.Diagnostics.CodeAnalysis.ExcludeFromCodeCoverage]",
    "    [global::Microsoft.CodeAnalysis.Embedded]",
    "    internal static class IsExternalInit",
    "    \x7b",
    "    \x7d",
    "\x7d",
    ""]

def moduleInitializerAttribute : String :=
  withHeading [
    "namespace System.Runtime.CompilerServices",
    "\x7b",
    "    /// <summary>",
    "    /// Used to indicate to the compiler that a method should be called in its " ++
      "containing module's initializer.",
    "    /// </summary>",
    "    [global::System.AttributeUsage(global::System.AttributeTargets.Method, Inherited = " ++
      "false)]",
    "    [global::System.Diagnostics.CodeAnalysis.ExcludeFromCodeCoverage]",
    "    [global::Microsoft.CodeAnalysis.Embedded]",
    "    internal sealed class ModuleInitializerAttribute : global::System.Attribute",
    "    \x7b",
    "    \x7d",
    "\x7d",
    ""]

def overloadResolutionPriorityAttribute : String :=
  withHeading [
    "namespace System.Runtime.CompilerServices",
    "\x7b",
    "    /// <summary>",
    "    /// Specifies the priority of a member in overload resolution.",
    "    /// </summary>",
    "    [global::System.AttributeUsage(global::System.AttributeTargets.Method | " ++
      "global::System.AttributeTargets.Constructor | " ++
      "global::System.AttributeTargets.Property, AllowMultiple = false, Inherited = false)]",
    "    [global::System.Diagnostics.CodeAnalysis.ExcludeFromCodeCoverage]",
    "    [global::Microsoft.CodeAnalysis.Embedded]",
    "    internal sealed class OverloadResolutionPriorityAttribute : global::System.Attribute",
    "    \x7b",
    "        /// <summary>",
    "        /// Initializes a new instance of the <see " ++
      "cref=\"OverloadResolutionPriorityAttribute\"/> class.",
    "        /// </summary>",
    "        /// <param name=\"priority\">The priority of the attributed member.</param>",
    "        public OverloadResolutionPriorityAttribute(int priority)",
    "        \x7b",
    "            Priority = priority;",
    "        \x7d",
    "",
    "        /// <summary>",
    "        /// The priority of the member.",
    "        /// </summary>",
    "        public int Priority \x7b get; \x7d",
    "    \x7d",
    "\x7d",
    ""]

def requiredMemberAttribute : String :=
  withHeading [
    "namespace System.Runtime.CompilerServices",
    "\x7b",
    "    /// <summary>",
    "    /// Specifies that a type has required members or that a member is required.",
    "    /// </summary>",
    "    [global::System.AttributeUsage(global::System.AttributeTargets.Class | " ++
      "global::System.AttributeTargets.Struct | global::System.AttributeTargets.Field | " ++
      "global::System.AttributeTargets.Property, AllowMultiple = false, Inherited = false)]",
    "    [global::System.Diagnostics.CodeAnalysis.ExcludeFromCodeCoverage]",
    "    [global::Microsoft.CodeAnalysis.Embedded]",
    "    internal sealed class RequiredMemberAttribute : global::System.Attribute",
    "    \x7b",
    "    \x7d",
    "\x7d",
    ""]

def requiresLocationAttribute : String :=
  withHeading [
    "namespace System.Runtime.CompilerServices",
    "\x7b",
    "    /// <summary>",
    "    /// Reserved for use by a compiler for tracking metadata. This attribute should not " ++
      "be used by developers in source code.",
    "    /// </summary>",
    "    [global::System.AttributeUsage(global::System.AttributeTargets.Parameter, Inherited " ++
      "= false)]",
    "    [global::System.Diagnostics.CodeAnalysis.ExcludeFromCodeCoverage]",
    "    [global::Microsoft.CodeAnalysis.Embedded]",
    "    internal sealed class RequiresLocationAttribute : global::System.Attribute",
    "    \x7b",
    "    \x7d",
    "\x7d",
    ""]

def skipLocalsInitAttribute : String :=
  withHeading [
    "namespace System.Runtime.CompilerServices",
    "\x7b",
    "    /// <summary>",
    "    /// Used to indicate to the compiler that the <c>.locals init</c> flag should not " ++
      "be set in method headers.",
    "    /// </summary>",
    "    [global::System.AttributeUsage(global::System.AttributeTargets.Module | " ++
      "global::System.AttributeTargets.Class | global::System.AttributeTargets.Struct | " ++
      "global::System.AttributeTargets.Interface | " ++
      "global::System.AttributeTargets.Constructor | global::System.AttributeTargets.Method " ++
      "| global::System.AttributeTargets.Property | global::System.AttributeTargets.Event, " ++
      "Inherited = false)]",
    "    [global::System.Diagnostics.CodeAnalysis.ExcludeFromCodeCoverage]",
    "    [global::Microsoft.CodeAnalysis.Embedded]",
    "    internal sealed class SkipLocalsInitAttribute : global::System.Attribute",
    "    \x7b",
    "    \x7d",
    "\x7d",
    ""]

end Polyfill.Template.Builtin
