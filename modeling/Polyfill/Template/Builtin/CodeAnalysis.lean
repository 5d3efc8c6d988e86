import Polyfill.Template.Builtin.Heading

/-!
# Templates for code analysis

The texts of the attributes that tell an analyser about null values, required members and string contents.
-/

namespace Polyfill.Template.Builtin

def allowNullAttribute : String :=
  withHeading [
    "namespace System.Diagnostics.CodeAnalysis",
    "\x7b",
    "    /// <summary>",
    "    /// Specifies that null is allowed as an input even if the corresponding type " ++
      "disallows it.",
    "    /// </summary>",
    "    [global::System.AttributeUsage(global::System.AttributeTargets.Field | " ++
      "global::System.AttributeTargets.Parameter | global::System.AttributeTargets.Property, " ++
      "Inherited = false)]",
    "    [global::System.Diagnostics.CodeAnalysis.ExcludeFromCodeCoverage]",
    "    [global::Microsoft.CodeAnalysis.Embedded]",
    "    internal sealed class AllowNullAttribute : global::System.Attribute",
    "    \x7b",
    "    \x7d",
    "\x7d",
    ""]

def disallowNullAttribute : String :=
  withHeading [
    "namespace System.Diagnostics.CodeAnalysis",
    "\x7b",
    "    /// <summary>",
    "    /// Specifies that null is disallowed as an input even if the corresponding type " ++
      "allows it.",
    "    /// </summary>",
    "    [global::System.AttributeUsage(global::System.AttributeTargets.Field | " ++
      "global::System.AttributeTargets.Parameter | global::System.AttributeTargets.Property, " ++
      "Inherited = false)]",
    "    [global::System.Diagnostics.CodeAnalysis.ExcludeFromCodeCoverage]",
    "    [global::Microsoft.CodeAnalysis.Embedded]",
    "    internal sealed class DisallowNullAttribute : global::System.Attribute",
    "    \x7b",
    "    \x7d",
    "\x7d",
    ""]

def doesNotReturnAttribute : String :=
  withHeading [
    "namespace System.Diagnostics.CodeAnalysis",
    "\x7b",
    "    /// <summary>",
    "    /// Applied to a method that will never return under any circumstance.",
    "    /// </summary>",
    "    [global::System.AttributeUsage(global::System.AttributeTargets.Method, Inherited = " ++
      "false)]",
    "    [global::System.Diagnostics.CodeAnalysis.ExcludeFromCodeCoverage]",
    "    [global::Microsoft.CodeAnalysis.Embedded]",
    "    internal sealed class DoesNotReturnAttribute : global::System.Attribute",
    "    \x7b",
    "    \x7d",
    "\x7d",
    ""]

def doesNotReturnIfAttribute : String :=
  withHeading [
    "namespace System.Diagnostics.CodeAnalysis",
    "\x7b",
    "    /// <summary>",
    "    /// Specifies that the method will not return if the associated Boolean parameter " ++
      "is passed the specified value.",
    "    /// </summary>",
    "    [global::System.AttributeUsage(global::System.AttributeTargets.Parameter, Inherited " ++
      "= false)]",
    "    [global::System.Diagnostics.CodeAnalysis.ExcludeFromCodeCoverage]",
    "    [global::Microsoft.CodeAnalysis.Embedded]",
    "    internal sealed class DoesNotReturnIfAttribute : global::System.Attribute",
    "    \x7b",
    "        /// <summary>",
    "        /// Initializes the attribute with the specified parameter value.",
    "        /// </summary>",
    "        /// <param name=\"parameterValue\">The condition parameter value.</param>",
    "        public DoesNotReturnIfAttribute(bool parameterValue)",
    "        \x7b",
    "            ParameterValue = parameterValue;",
    "        \x7d",
    "",
    "        /// <summary>",
    "        /// Gets the condition parameter value.",
    "        /// </summary>",
    "        public bool ParameterValue \x7b get; \x7d",
    "    \x7d",
    "\x7d",
    ""]

def maybeNullAttribute : String :=
  withHeading [
    "namespace System.Diagnostics.CodeAnalysis",
    "\x7b",
    "    /// <summary>",
    "    /// Specifies that an output may be null even if the corresponding type disallows it.",
    "    /// </summary>",
    "    [global::System.AttributeUsage(global::System.AttributeTargets.Field | " ++
      "global::System.AttributeTargets.Parameter | global::System.AttributeTargets.Property " ++
      "| global::System.AttributeTargets.ReturnValue, Inherited = false)]",
    "    [global::System.Diagnostics.CodeAnalysis.ExcludeFromCodeCoverage]",
    "    [global::Microsoft.CodeAnalysis.Embedded]",
    "    internal sealed class MaybeNullAttribute : global::System.Attribute",
    "    \x7b",
    "    \x7d",
    "\x7d",
    ""]

def maybeNullWhenAttribute : String :=
  withHeading [
    "namespace System.Diagnostics.CodeAnalysis",
    "\x7b",
    "    /// <summary>",
    "    /// Specifies that when a method returns <see cref=\"ReturnValue\"/>, the parameter " ++
      "may be null even if the corresponding type disallows it.",
    "    /// </summary>",
    "    [global::System.AttributeUsage(global::System.AttributeTargets.Parameter, Inherited " ++
      "= false)]",
    "    [global::System.Diagnostics.CodeAnalysis.ExcludeFromCodeCoverage]",
    "    [global::Microsoft.CodeAnalysis.Embedded]",
    "    internal sealed class MaybeNullWhenAttribute : global::System.Attribute",
    "    \x7b",
    "        /// <summary>",
    "        /// Initializes the attribute with the specified return value condition.",
    "        /// </summary>",
    "        /// <param name=\"returnValue\">The return value condition.</param>",
    "        public MaybeNullWhenAttribute(bool returnValue)",
    "        \x7b",
    "            ReturnValue = returnValue;",
    "        \x7d",
    "",
    "        /// <summary>",
    "        /// Gets the return value condition.",
    "        /// </summary>",
    "        public bool ReturnValue \x7b get; \x7d",
    "    \x7d",
    "\x7d",
    ""]

def memberNotNullAttribute : String :=
  withHeading [
    "namespace System.Diagnostics.CodeAnalysis",
    "\x7b",
    "    /// <summary>",
    "    /// Specifies that the method or property will ensure that the listed field and " ++
      "property members have not-null values.",
    "    /// </summary>",
    "    [global::System.AttributeUsage(global::System.AttributeTargets.Method | " ++
      "global::System.AttributeTargets.Property, Inherited = false, AllowMultiple = true)]",
    "    [global::System.Diagnostics.CodeAnalysis.ExcludeFromCodeCoverage]",
    "    [global::Microsoft.CodeAnalysis.Embedded]",
    "    internal sealed class MemberNotNullAttribute : global::System.Attribute",
    "    \x7b",
    "        /// <summary>",
    "        /// Initializes the attribute with the list of field and property members.",
    "        /// </summary>",
    "        /// <param name=\"members\">The list of field and property members that are " ++
      "promised to be not-null.</param>",
    "        public MemberNotNullAttribute(params string[] members)",
    "        \x7b",
    "            Members = members;",
    "        \x7d",
    "",
    "        /// <summary>",
    "        /// Gets field or property member names.",
    "        /// </summary>",
    "        public string[] Members \x7b get; \x7d",
    "    \x7d",
    "\x7d",
    ""]

def notNullAttribute : String :=
  withHeading [
    "namespace System.Diagnostics.CodeAnalysis",
    "\x7b",
    "    /// <summary>",
    "    /// Specifies that an output will not be null even if the corresponding type allows it.",
    "    /// </summary>",
    "    [global::System.AttributeUsage(global::System.AttributeTargets.Field | " ++
      "global::System.AttributeTargets.Parameter | global::System.AttributeTargets.Property " ++
      "| global::System.AttributeTargets.ReturnValue, Inherited = false)]",
    "    [global::System.Diagnostics.CodeAnalysis.ExcludeFromCodeCoverage]",
    "    [global::Microsoft.CodeAnalysis.Embedded]",
    "    internal sealed class NotNullAttribute : global::System.Attribute",
    "    \x7b",
    "    \x7d",
    "\x7d",
    ""]

def notNullIfNotNullAttribute : String :=
  withHeading [
    "namespace System.Diagnostics.CodeAnalysis",
    "\x7b",
    "    /// <summary>",
    "    /// Specifies that the output will be non-null if the named parameter is non-null.",
    "    /// </summary>",
    "    [global::System.AttributeUsage(global::System.AttributeTargets.Parameter | " ++
      "global::System.AttributeTargets.Property | " ++
      "global::System.AttributeTargets.ReturnValue, AllowMultiple = true, Inherited = false)]",
    "    [global::System.Diagnostics.CodeAnalysis.ExcludeFromCodeCoverage]",
    "    [global::Microsoft.CodeAnalysis.Embedded]",
    "    internal sealed class NotNullIfNotNullAttribute : global::System.Attribute",
    "    \x7b",
    "        /// <summary>",
    "        /// Initializes the attribute with the associated parameter name.",
    "        /// </summary>",
    "        /// <param name=\"parameterName\">The associated parameter name.</param>",
    "        public NotNullIfNotNullAttribute(string parameterName)",
    "        \x7b",
    "            ParameterName = parameterName;",
    "        \x7d",
    "",
    "        /// <summary>",
    "        /// Gets the associated parameter name.",
    "        /// </summary>",
    "        public string ParameterName \x7b get; \x7d",
    "    \x7d",
    "\x7d",
    ""]

def notNullWhenAttribute : String :=
  withHeading [
    "namespace System.Diagnostics.CodeAnalysis",
    "\x7b",
    "    /// <summary>",
    "    /// Specifies that when a method returns <see cref=\"ReturnValue\"/>, the parameter " ++
      "will not be null even if the corresponding type allows it.",
    "    /// </summary>",
    "    [global::System.AttributeUsage(global::System.AttributeTargets.Parameter, Inherited " ++
      "= false)]",
    "    [global::System.Diagnostics.CodeAnalysis.ExcludeFromCodeCoverage]",
    "    [global::Microsoft.CodeAnalysis.Embedded]",
    "    internal sealed class NotNullWhenAttribute : global::System.Attribute",
    "    \x7b",
    "        /// <summary>",
    "        /// Initializes the attribute with the specified return value condition.",
    "        /// </summary>",
    "        /// <param name=\"returnValue\">The return value condition.</param>",
    "        public NotNullWhenAttribute(bool returnValue)",
    "        \x7b",
    "            ReturnValue = returnValue;",
    "        \x7d",
    "",
    "        /// <summary>",
    "        /// Gets the return value condition.",
    "        /// </summary>",
    "        public bool ReturnValue \x7b get; \x7d",
    "    \x7d",
    "\x7d",
    ""]

def setsRequiredMembersAttribute : String :=
  withHeading [
    "namespace System.Diagnostics.CodeAnalysis",
    "\x7b",
    "    /// <summary>",
    "    /// Specifies that this constructor sets all required members for the current type.",
    "    /// </summary>",
    "    [global::System.AttributeUsage(global::System.AttributeTargets.Constructor, " ++
      "AllowMultiple = false, Inherited = false)]",
    "    [global::System.Diagnostics.CodeAnalysis.ExcludeFromCodeCoverage]",
    "    [global::Microsoft.CodeAnalysis.Embedded]",
    "    internal sealed class SetsRequiredMembersAttribute : global::System.Attribute",
    "    \x7b",
    "    \x7d",
    "\x7d",
    ""]

def stringSyntaxAttribute : String :=
  withHeading [
    "namespace System.Diagnostics.CodeAnalysis",
    "\x7b",
    "    /// <summary>",
    "    /// Specifies the syntax used in a string.",
    "    /// </summary>",
    "    [global::System.AttributeUsage(global::System.AttributeTargets.Field | " ++
      "global::System.AttributeTargets.Parameter | global::System.AttributeTargets.Property, " ++
      "AllowMultiple = false, Inherited = false)]",
    "    [global::System.Diagnostics.CodeAnalysis.ExcludeFromCodeCoverage]",
    "    [global::Microsoft.CodeAnalysis.Embedded]",
    "    internal sealed class StringSyntaxAttribute : global::System.Attribute",
    "    \x7b",
    "        /// <summary>",
    "        /// Initializes the attribute with the identifier of the syntax used.",
    "        /// </summary>",
    "        /// <param name=\"syntax\">The syntax identifier.</param>",
    "        public StringSyntaxAttribute(string syntax)",
    "        \x7b",
    "            Syntax = syntax;",
    "        \x7d",
    "",
    "        /// <summary>",
    "        /// Gets the identifier of the syntax used.",
    "        /// </summary>",
    "        public string Syntax \x7b get; \x7d",
    "",
    "        /// <summary>The syntax identifier for strings containing regular " ++
      "expressions.</summary>",
    "        public const string Regex = nameof(Regex);",
    "",
    "        /// <summary>The syntax identifier for strings containing JavaScript Object " ++
      "Notation (JSON).</summary>",
    "        public const string Json = nameof(Json);",
    "    \x7d",
    "\x7d",
    ""]

def unscopedRefAttribute : String :=
  withHeading [
    "namespace System.Diagnostics.CodeAnalysis",
    "\x7b",
    "    /// <summary>",
    "    /// Used to indicate a byref escapes and is not scoped.",
    "    /// </summary>",
    "    [global::System.AttributeUsage(global::System.AttributeTargets.Method | " ++
      "global::System.AttributeTargets.Parameter | global::System.AttributeTargets.Property, " ++
      "AllowMultiple = false, Inherited = false)]",
    "    [global::System.Diagnostics.CodeAnalysis.ExcludeFromCodeCoverage]",
    "    [global::Microsoft.CodeAnalysis.Embedded]",
    "    internal sealed class UnscopedRefAttribute : global::System.Attribute",
    "    \x7b",
    "    \x7d",
    "\x7d",
    ""]

end Polyfill.Template.Builtin
