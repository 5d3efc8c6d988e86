import Polyfill.Template.Builtin.Heading

/-!
# Templates that a runtime may come with

The texts of the attributes that the runtime normally provides, generated only on demand.
-/

namespace Polyfill.Template.Builtin

def requiresDynamicCodeAttribute : String :=
  withHeading [
    "namespace System.Diagnostics.CodeAnalysis",
    "\x7b",
    "    /// <summary>",
    "    /// Indicates that the specified method requires the ability to generate new code " ++
      "at runtime.",
    "    /// </summary>",
    "    [global::System.AttributeUsage(global::System.AttributeTargets.Method | " ++
      "global::System.AttributeTargets.Constructor | global::System.AttributeTargets.Class, " ++
      "Inherited = false)]",
    "    [global::System.Diagnostics.CodeAnalysis.ExcludeFromCodeCoverage]",
    "    [global::Microsoft.CodeAnalysis.Embedded]",
    "    internal sealed class RequiresDynamicCodeAttribute : global::System.Attribute",
    "    \x7b",
    "        /// <summary>",
    "        /// Initializes a new instance of the <see " ++
      "cref=\"RequiresDynamicCodeAttribute\"/> class with the specified message.",
    "        /// </summary>",
    "        /// <param name=\"message\">A message that contains information about the usage " ++
      "of dynamic code.</param>",
    "        public RequiresDynamicCodeAttribute(string message)",
    "        \x7b",
    "            Message = message;",
    "        \x7d",
    "",
    "        /// <summary>",
    "        /// Gets a message that contains information about the usage of dynamic code.",
    "        /// </summary>",
    "        public string Message \x7b get; \x7d",
    "",
    "        /// <summary>",
    "        /// Gets or sets an optional URL that contains more information about the method.",
    "        /// </summary>",
    "        public string? Url \x7b get; set; \x7d",
    "    \x7d",
    "\x7d",
    ""]

def requiresUnreferencedCodeAttribute : String :=
  withHeading [
    "namespace System.Diagnostics.CodeAnalysis",
    "\x7b",
    "    /// <summary>",
    "    /// Indicates that the specified method requires dynamic access to code that is not " ++
      "referenced statically.",
    "    /// </summary>",
    "    [global::System.AttributeUsage(global::System.AttributeTargets.Method | " ++
      "global::System.AttributeTargets.Constructor | global::System.AttributeTargets.Class, " ++
      "Inherited = false)]",
    "    [global::System.Diagnostics.CodeAnalysis.ExcludeFromCodeCoverage]",
    "    [global::Microsoft.CodeAnalysis.Embedded]",
    "    internal sealed class RequiresUnreferencedCodeAttribute : global::System.Attribute",
    "    \x7b",
    "        /// <summary>",
    "        /// Initializes a new instance of the <see " ++
      "cref=\"RequiresUnreferencedCodeAttribute\"/> class with the specified message.",
    "        /// </summary>",
    "        /// <param name=\"message\">A message that contains information about the usage " ++
      "of unreferenced code.</param>",
    "        public RequiresUnreferencedCodeAttribute(string message)",
    "        \x7b",
    "            Message = message;",
    "        \x7d",
    "",
    "        /// <summary>",
    "        /// Gets a message that contains information about the usage of unreferenced code.",
    "        /// </summary>",
    "        public string Message \x7b get; \x7d",
    "",
    "        /// <summary>",
    "        /// Gets or sets an optional URL that contains more information about the method.",
    "        /// </summary>",
    "        public string? Url \x7b get; set; \x7d",
    "    \x7d",
    "\x7d",
    ""]

def unconditionalSuppressMessageAttribute : String :=
  withHeading [
    "namespace System.Diagnostics.CodeAnalysis",
    "\x7b",
    "    /// <summary>",
    "    /// Suppresses reporting of a specific rule violation, allowing multiple " ++
      "suppressions on a single code artifact.",
    "    /// </summary>",
    "    [global::System.AttributeUsage(global::System.AttributeTargets.All, Inherited = " ++
      "false, AllowMultiple = true)]",
    "    [global::System.Diagnostics.CodeAnalysis.ExcludeFromCodeCoverage]",
    "    [global::Microsoft.CodeAnalysis.Embedded]",
    "    internal sealed class UnconditionalSuppressMessageAttribute : global::System.Attribute",
    "    \x7b",
    "        /// <summary>",
    "        /// Initializes a new instance of the <see " ++
      "cref=\"UnconditionalSuppressMessageAttribute\"/> class.",
    "        /// </summary>",
    "        /// <param name=\"category\">The category for the attribute.</param>",
    "        /// <param name=\"checkId\">The identifier of the analysis rule the attribute " ++
      "applies to.</param>",
    "        public UnconditionalSuppressMessageAttribute(string category, string checkId)",
    "        \x7b",
    "            Category = category;",
    "            CheckId = checkId;",
    "        \x7d",
    "",
    "        /// <summary>",
    "        /// Gets the category identifying the classification of the attribute.",
    "        /// </summary>",
    "        public string Category \x7b get; \x7d",
    "",
    "        /// <summary>",
    "        /// Gets the identifier of the analysis tool rule to be suppressed.",
    "        /// </summary>",
    "        public string CheckId \x7b get; \x7d",
    "",
    "        /// <summary>",
    "        /// Gets or sets the justification for suppressing the code analysis message.",
    "        /// </summary>",
    "        public string? Justification \x7b get; set; \x7d",
    "    \x7d",
    "\x7d",
    ""]

def stackTraceHiddenAttribute : String :=
  withHeading [
    "namespace System.Diagnostics",
    "\x7b",
    "    /// <summary>",
    "    /// Types and Methods attributed with StackTraceHidden will be omitted from the " ++
      "stack trace text shown in StackTrace.ToString() and Exception.StackTrace.",
    "    /// </summary>",
    "    [global::System.AttributeUsage(global::System.AttributeTargets.Class | " ++
      "global::System.AttributeTargets.Method | global::System.AttributeTargets.Constructor " ++
      "| global::System.AttributeTargets.Struct, Inherited = false)]",
    "    [global::System.Diagnostics.CodeAnalysis.ExcludeFromCodeCoverage]",
    "    [global::Microsoft.CodeAnalysis.Embedded]",
    "    internal sealed class StackTraceHiddenAttribute : global::System.Attribute",
    "    \x7b",
    "    \x7d",
    "\x7d",
    ""]

def disableRuntimeMarshallingAttribute : String :=
  withHeading [
    "namespace System.Runtime.CompilerServices",
    "\x7b",
    "    /// <summary>",
    "    /// Disables the built-in runtime managed/unmanaged marshalling subsystem for " ++
      "P/Invokes, Delegate types, and unmanaged function pointer invocations.",
    "    /// </summary>",
    "    [global::System.AttributeUsage(global::System.AttributeTargets.Assembly, Inherited " ++
      "= false, AllowMultiple = false)]",
    "    [global::System.Diagnostics.CodeAnalysis.ExcludeFromCodeCoverage]",
    "    [global::Microsoft.CodeAnalysis.Embedded]",
    "    internal sealed class DisableRuntimeMarshallingAttribute : global::System.Attribute",
    "    \x7b",
    "    \x7d",
    "\x7d",
    ""]

def requiresPreviewFeaturesAttribute : String :=
  withHeading [
    "namespace System.Runtime.Versioning",
    "\x7b",
    "    /// <summary>",
    "    /// Indicates that an API is in preview.",
    "    /// </summary>",
    "    [global::System.AttributeUsage(global::System.AttributeTargets.Assembly | " ++
      "global::System.AttributeTargets.Module | global::System.AttributeTargets.Class | " ++
      "global::System.AttributeTargets.Interface | global::System.AttributeTargets.Delegate " ++
      "| global::System.AttributeTargets.Struct | global::System.AttributeTargets.Enum | " ++
      "global::System.AttributeTargets.Constructor | global::System.AttributeTargets.Method " ++
      "| global::System.AttributeTargets.Property | global::System.AttributeTargets.Field | " ++
      "global::System.AttributeTargets.Event, Inherited = false)]",
    "    [global::System.Diagnostics.CodeAnalysis.ExcludeFromCodeCoverage]",
    "    [global::Microsoft.CodeAnalysis.Embedded]",
    "    internal sealed class RequiresPreviewFeaturesAttribute : global::System.Attribute",
    "    \x7b",
    "        /// <summary>",
    "        /// Initializes a new instance of the <see " ++
      "cref=\"RequiresPreviewFeaturesAttribute\"/> class.",
    "        /// </summary>",
    "        public RequiresPreviewFeaturesAttribute()",
    "        \x7b",
    "        \x7d",
    "",
    "        /// <summary>",
    "        /// Gets the optional message associated with this attribute instance.",
    "        /// </summary>",
    "        public string? Message \x7b get; set; \x7d",
    "    \x7d",
    "\x7d",
    ""]

end Polyfill.Template.Builtin
