import Polyfill.Template.Builtin.Heading

/-!
# Templates for ranges

The texts of the two types behind the index and range operators.
-/

namespace Polyfill.Template.Builtin

def index : String :=
  withHeading [
    "namespace System",
    "\x7b",
    "    /// <summary>Represent a type can be used to index a collection either from the " ++
      "start or the end.</summary>",
    "    /// <remarks>",
    "    /// Index is used by the C# compiler to support the new index syntax",
    "    /// <code>",
    "    /// int[] someArray = new int[5] \x7b 1, 2, 3, 4, 5 \x7d ;",
    "    /// int lastElement = someArray[^1]; // lastElement = 5",
    "    /// </code>",
    "    /// </remarks>",
    "    [global::System.Diagnostics.CodeAnalysis.ExcludeFromCodeCoverage]",
    "    [global::Microsoft.CodeAnalysis.Embedded]",
    "    internal readonly struct Index : global::System.IEquatable<Index>",
    "    \x7b",
    "        private readonly int _value;",
    "",
    "        /// <summary>Construct an Index using a value and indicating if the index is " ++
      "from the start or from the end.</summary>",
    "        /// <param name=\"value\">The index value. it has to be zero or positive " ++
      "number.</param>",
    "        /// <param name=\"fromEnd\">Indicating if the index is from the start or from " ++
      "the end.</param>",
    "        [global::System.Runtime.CompilerServices.MethodImpl(global::System.Runtime.CompilerServices.MethodImplOptions.AggressiveInlining)]",
    "        public Index(int value, bool fromEnd = false)",
    "        \x7b",
    "            if (value < 0)",
    "            \x7b",
    "                throw new global::System.ArgumentOutOfRangeException(nameof(value), " ++
      "\"value must be non-negative\");",
    "            \x7d",
    "",
    "            if (fromEnd)",
    "                _value = ~value;",
    "            else",
    "                _value = value;",
    "        \x7d",
    "",
    "        // The following private constructors mainly created for perf reason to avoid " ++
      "the checks",
    "        private Index(int value)",
    "        \x7b",
    "            _value = value;",
    "        \x7d",
    "",
    "        /// <summary>Create an Index pointing at first element.</summary>",
    "        public static Index Start => new Index(0);",
    "",
    "        /// <summary>Create an Index pointing at beyond last element.</summary>",
    "        public static Index End => new Index(~0);",
    "",
    "        /// <summary>Create an Index from the start at the position indicated by the " ++
      "value.</summary>",
    "        /// <param name=\"value\">The index value from the start.</param>",
    "        [global::System.Runtime.CompilerServices.MethodImpl(global::System.Runtime.CompilerServices.MethodImplOptions.AggressiveInlining)]",
    "        public static Index FromStart(int value)",
    "        \x7b",
    "            if (value < 0)",
    "            \x7b",
    "                throw new global::System.ArgumentOutOfRangeException(nameof(value), " ++
      "\"value must be non-negative\");",
    "            \x7d",
    "",
    "            return new Index(value);",
    "        \x7d",
    "",
    "        /// <summary>Create an Index from the end at the position indicated by the " ++
      "value.</summary>",
    "        /// <param name=\"value\">The index value from the end.</param>",
    "        [global::System.Runtime.CompilerServices.MethodImpl(global::System.Runtime.CompilerServices.MethodImplOptions.AggressiveInlining)]",
    "        public static Index FromEnd(int value)",
    "        \x7b",
    "            if (value < 0)",
    "            \x7b",
    "                throw new global::System.ArgumentOutOfRangeException(nameof(value), " ++
      "\"value must be non-negative\");",
    "            \x7d",
    "",
    "            return new Index(~value);",
    "        \x7d",
    "",
    "        /// <summary>Returns the index value.</summary>",
    "        public int Value",
    "        \x7b",
    "            get",
    "            \x7b",
    "                if (_value < 0)",
    "                    return ~_value;",
    "                else",
    "                    return _value;",
    "            \x7d",
    "        \x7d",
    "",
    "        /// <summary>Indicates whether the index is from the start or the end.</summary>",
    "        public bool IsFromEnd => _value < 0;",
    "",
    "        /// <summary>Calculate the offset from the start using the giving collection " ++
      "length.</summary>",
    "        /// <param name=\"length\">The length of the collection that the Index will be " ++
      "used with. length has to be a positive value</param>",
    "        [global::System.Runtime.CompilerServices.MethodImpl(global::System.Runtime.CompilerServices.MethodImplOptions.AggressiveInlining)]",
    "        public int GetOffset(int length)",
    "        \x7b",
    "            int offset = _value;",
    "            if (IsFromEnd)",
    "            \x7b",
    "                offset += length + 1;",
    "            \x7d",
    "            return offset;",
    "        \x7d",
    "",
    "        /// <summary>Indicates whether the current Index object is equal to another " ++
      "object of the same type.</summary>",
    "        /// <param name=\"value\">An object to compare with this object</param>",
    "        public override bool Equals(object? value) => value is Index && _value == " ++
      "((Index)value)._value;",
    "",
    "        /// <summary>Indicates whether the current Index object is equal to another " ++
      "Index object.</summary>",
    "        /// <param name=\"other\">An object to compare with this object</param>",
    "        public bool Equals(Index other) => _value == other._value;",
    "",
    "        /// <summary>Returns the hash code for this instance.</summary>",
    "        public override int GetHashCode() => _value;",
    "",
    "        /// <summary>Converts integer number to an Index.</summary>",
    "        public static implicit operator Index(int value) => FromStart(value);",
    "",
    "        /// <summary>Converts the value of the current Index object to its equivalent " ++
      "string representation.</summary>",
    "        public override string ToString()",
    "        \x7b",
    "            if (IsFromEnd)",
    "                return \"^\" + ((uint)Value).ToString();",
    "",
    "            return ((uint)Value).ToString();",
    "        \x7d",
    "    \x7d",
    "\x7d",
    ""]

def range : String :=
  withHeading [
    "namespace System",
    "\x7b",
    "    /// <summary>Represent a range has start and end indexes.</summary>",
    "    /// <remarks>",
    "    /// Range is used by the C# compiler to support the range syntax.",
    "    /// <code>",
    "    /// int[] someArray = new int[5] \x7b 1, 2, 3, 4, 5 \x7d;",
    "    /// int[] subArray1 = someArray[0..2]; // \x7b 1, 2 \x7d",
    "    /// int[] subArray2 = someArray[1..^0]; // \x7b 2, 3, 4, 5 \x7d",
    "    /// </code>",
    "    /// </remarks>",
    "    [global::System.Diagnostics.CodeAnalysis.ExcludeFromCodeCoverage]",
    "    [global::Microsoft.CodeAnalysis.Embedded]",
    "    internal readonly struct Range : global::System.IEquatable<Range>",
    "    \x7b",
    "        /// <summary>Represent the inclusive start index of the Range.</summary>",
    "        public global::System.Index Start \x7b get; \x7d",
    "",
    "        /// <summary>Represent the exclusive end index of the Range.</summary>",
    "        public global::System.Index End \x7b get; \x7d",
    "",
    "        /// <summary>Construct a Range object using the start and end indexes.</summary>",
    "        /// <param name=\"start\">Represent the inclusive start index of the range.</param>",
    "        /// <param name=\"end\">Represent the exclusive end index of the range.</param>",
    "        public Range(global::System.Index start, global::System.Index end)",
    "        \x7b",
    "            Start = start;",
    "            End = end;",
    "        \x7d",
    "",
    "        /// <summary>Indicates whether the current Range object is equal to another " ++
      "object of the same type.</summary>",
    "        /// <param name=\"value\">An object to compare with this object</param>",
    "        public override bool Equals(object? value) =>",
    "            value is Range r &&",
    "            r.Start.Equals(Start) &&",
    "            r.End.Equals(End);",
    "",
    "        /// <summary>Indicates whether the current Range object is equal to another " ++
      "Range object.</summary>",
    "        /// <param name=\"other\">An object to compare with this object</param>",
    "        public bool Equals(Range other) => other.Start.Equals(Start) && " ++
      "other.End.Equals(End);",
    "",
    "        /// <summary>Returns the hash code for this instance.</summary>",
    "        public override int GetHashCode()",
    "        \x7b",
    "            return Start.GetHashCode() * 31 + End.GetHashCode();",
    "        \x7d",
    "",
    "        /// <summary>Converts the value of the current Range object to its equivalent " ++
      "string representation.</summary>",
    "        public override string ToString()",
    "        \x7b",
    "            return Start.ToString() + \"..\" + End.ToString();",
    "        \x7d",
    "",
    "        /// <summary>Create a Range object starting from start index to the end of the " ++
      "collection.</summary>",
    "        public static Range StartAt(global::System.Index start) => new Range(start, " ++
      "global::System.Index.End);",
    "",
    "        /// <summary>Create a Range object starting from first element in the " ++
      "collection to the end Index.</summary>",
    "        public static Range EndAt(global::System.Index end) => new " ++
      "Range(global::System.Index.Start, end);",
    "",
    "        /// <summary>Create a Range object starting from first element to the " ++
      "end.</summary>",
    "        public static Range All => new Range(global::System.Index.Start, " ++
      "global::System.Index.End);",
    "",
    "        /// <summary>Calculate the start offset and length of range object using a " ++
      "collection length.</summary>",
    "        /// <param name=\"length\">The length of the collection that the range will be " ++
      "used with. length has to be a positive value.</param>",
    "        [global::System.Runtime.CompilerServices.MethodImpl(global::System.Runtime.CompilerServices.MethodImplOptions.AggressiveInlining)]",
    "        public (int Offset, int Length) GetOffsetAndLength(int length)",
    "        \x7b",
    "            int start = Start.GetOffset(length);",
    "            int end = End.GetOffset(length);",
    "",
    "            if ((uint)end > (uint)length || (uint)start > (uint)end)",
    "            \x7b",
    "                throw new global::System.ArgumentOutOfRangeException(nameof(length));",
    "            \x7d",
    "",
    "            return (start, end - start);",
    "        \x7d",
    "    \x7d",
    "\x7d",
    ""]

end Polyfill.Template.Builtin
