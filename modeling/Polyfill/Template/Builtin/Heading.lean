/-!
# The heading of built-in templates, and the marker

Every built-in template starts with the same lines. The marker is no template: it is emitted with
every generation as it stands, since the templates mark their types with it.
-/

namespace Polyfill.Template.Builtin

/-- The lines that built-in templates start with. -/
def heading : List String := [
    "// <auto-generated/>",
    "#pragma warning disable",
    "#nullable enable annotations",
    "",
    "// Licensed to the .NET Foundation under one or more agreements.",
    "// The .NET Foundation licenses this file to you under the MIT license.",
    ""]

/-- The text of a built-in template, from the lines that follow its heading. -/
def withHeading (lines : List String) : String :=
  String.intercalate "\n" (heading ++ lines)

/-- The marker's own source. -/
def embeddedAttribute : String :=
  String.intercalate "\n" [
    "// <auto-generated/>",
    "#pragma warning disable",
    "",
    "namespace Microsoft.CodeAnalysis",
    "\x7b",
    "    /// <summary>",
    "    /// Marks a type as \"embedded\", meaning it won't ever be visible from other " ++
      "assemblies.",
    "    /// </summary>",
    "    [global::System.AttributeUsage(global::System.AttributeTargets.All)]",
    "    internal sealed partial class EmbeddedAttribute : global::System.Attribute",
    "    \x7b",
    "    \x7d",
    "\x7d",
    ""]

end Polyfill.Template.Builtin
