import Polyfill.Template.Builtin.Heading

/-!
# Templates for native calls

The texts of the attribute on methods that native code calls.
-/

namespace Polyfill.Template.Builtin

def unmanagedCallersOnlyAttribute : String :=
  withHeading [
    "namespace System.Runtime.InteropServices",
    "\x7b",
    "    /// <summary>",
    "    /// Any method marked with <see cref=\"UnmanagedCallersOnlyAttribute\" /> can be " ++
      "directly called from",
    "    /// native code. The function token can be loaded to a local variable using the " ++
      "<see " ++
      "href=\"https://docs.microsoft.com/dotnet/csharp/language-reference/operators/pointer-related-operators#address-of-operator-\">address-of</see> " ++
      "operator",
    "    /// in C# and passed as a callback to a native method.",
    "    /// </summary>",
    "    [global::System.AttributeUsage(global::System.AttributeTargets.Method, Inherited = " ++
      "false)]",
    "    [global::System.Diagnostics.CodeAnalysis.ExcludeFromCodeCoverage]",
    "    [global::Microsoft.CodeAnalysis.Embedded]",
    "    internal sealed class UnmanagedCallersOnlyAttribute : global::System.Attribute",
    "    \x7b",
    "        /// <summary>",
    "        /// Optional. If omitted, the runtime will use the default platform calling " ++
      "convention.",
    "        /// </summary>",
    "        public global::System.Type[]? CallConvs;",
    "",
    "        /// <summary>",
    "        /// Optional. If omitted, no named export is emitted during compilation.",
    "        /// </summary>",
    "        public string? EntryPoint;",
    "    \x7d",
    "\x7d",
    ""]

end Polyfill.Template.Builtin
