import Polyfill.Json.Node
import Polyfill.Proofs.Json.Scalars

/-!
# The tree of a written value

A value that holds no doubles has the same tokens in every layout that only adds white space, and the
tree that is built from them has the shape of the value.
-/

namespace Polyfill.Json

/-- The scalar that a written number is scanned as. -/
def Number.scalar (number : Number) : Scalar :=
  match Numeral.scan number.text with
  | .ok (numeral, _) => .number numeral
  | .error fault => .brokenNumeral fault

theorem Number.scalar_integer (value : Int) :
    (Number.integer value).scalar = .number (.ofInt value) := by
  have scans : Numeral.scan ((integer value).text ++ []) = _ := Numeral.scan_text_integer value rfl
  rw [List.append_nil] at scans
  rw [scalar, scans]

namespace Value

mutual

/-- A value that holds no doubles. -/
def IsExact : Value → Prop
  | .number (.double _) => False
  | .array items => AreExactItems items
  | .object members => AreExactMembers members
  | _ => True

def AreExactItems : List Value → Prop
  | [] => True
  | item :: rest => item.IsExact ∧ AreExactItems rest

def AreExactMembers : List (String × Value) → Prop
  | [] => True
  | (_, value) :: rest => value.IsExact ∧ AreExactMembers rest

end

theorem areExactItems_iff {items : List Value} :
    AreExactItems items ↔ ∀ item ∈ items, item.IsExact := by
  induction items with
  | nil => simp [AreExactItems]
  | cons item rest ih => simp [AreExactItems, ih]

theorem areExactMembers_iff {members : List (String × Value)} :
    AreExactMembers members ↔ ∀ member ∈ members, member.2.IsExact := by
  induction members with
  | nil => simp [AreExactMembers]
  | cons member rest ih => simp [AreExactMembers, ih]

mutual

def tokens : Value → List Token
  | .null => [.scalar .null]
  | .bool value => [.scalar (.bool value)]
  | .number value => [.scalar value.scalar]
  | .text value => [.scalar (.text (.written value))]
  | .array [] => [.openArray, .closeArray]
  | .array (first :: rest) => .openArray :: tokens first ++ itemTokens rest ++ [.closeArray]
  | .object [] => [.openObject, .closeObject]
  | .object ((key, first) :: rest) =>
    .openObject :: .scalar (.text (.written key)) :: .colon :: tokens first ++ memberTokens rest ++
      [.closeObject]

/-- The tokens of the values of an array after its first one. -/
def itemTokens : List Value → List Token
  | [] => []
  | item :: rest => .comma :: tokens item ++ itemTokens rest

/-- The tokens of the members of an object after its first one. -/
def memberTokens : List (String × Value) → List Token
  | [] => []
  | (key, value) :: rest =>
    .comma :: .scalar (.text (.written key)) :: .colon :: tokens value ++ memberTokens rest

end

mutual

def node : Value → Node
  | .null => .scalar .null
  | .bool value => .scalar (.bool value)
  | .number value => .scalar value.scalar
  | .text value => .scalar (.text (.written value))
  | .array items => .array (itemNodes items)
  | .object members => .object (memberNodes members)

def itemNodes : List Value → Items
  | [] => .ends .closed
  | item :: rest => .item item.node (itemNodes rest)

def memberNodes : List (String × Value) → Members
  | [] => .ends .closed
  | (key, value) :: rest => .member (.written key) value.node (memberNodes rest)

end

end Value

/-! ## From the text to the tokens -/

/-- A layout that adds nothing but white space. -/
structure Layout.IsBlank (layout : Layout) : Prop where
  line : ∀ depth, ∀ c ∈ layout.line depth, Token.isGap c = true
  colon : ∃ gaps, layout.colon = ':' :: gaps ∧ ∀ c ∈ gaps, Token.isGap c = true

theorem Layout.isBlank_compact : compact.IsBlank where
  line := by simp [compact]
  colon := ⟨[], rfl, by simp⟩

theorem Layout.isBlank_spread : spread.IsBlank where
  line := by
    intro depth c among
    rcases List.mem_cons.mp among with rfl | among
    · rfl
    · rw [List.eq_of_mem_replicate among]
      rfl
  colon := ⟨[' '], rfl, by simp [Token.isGap]⟩

namespace Token

section Marks

variable (rest : List Char)

@[simp] theorem scanFrom_openArray : scanFrom 0 ('[' :: rest) = .openArray :: scanFrom 0 rest := rfl

@[simp] theorem scanFrom_closeArray : scanFrom 0 (']' :: rest) = .closeArray :: scanFrom 0 rest := rfl

@[simp] theorem scanFrom_openObject : scanFrom 0 ('{' :: rest) = .openObject :: scanFrom 0 rest := rfl

@[simp] theorem scanFrom_closeObject : scanFrom 0 ('}' :: rest) = .closeObject :: scanFrom 0 rest :=
  rfl

@[simp] theorem scanFrom_comma : scanFrom 0 (',' :: rest) = .comma :: scanFrom 0 rest := rfl

@[simp] theorem scanFrom_colon : scanFrom 0 (':' :: rest) = .colon :: scanFrom 0 rest := rfl

end Marks

section Blank

variable {layout : Layout}

theorem scanFrom_line (blank : layout.IsBlank) (depth : Nat) (rest : List Char) :
    scanFrom 0 (layout.line depth ++ rest) = scanFrom 0 rest :=
  scanFrom_gaps (blank.line depth) rest

theorem scanFrom_layout_colon (blank : layout.IsBlank) (rest : List Char) :
    scanFrom 0 (layout.colon ++ rest) = .colon :: scanFrom 0 rest := by
  obtain ⟨gaps, same, gap⟩ := blank.colon
  rw [same, List.cons_append, scanFrom_colon, scanFrom_gaps gap]

theorem isContinued_line_append (blank : layout.IsBlank) (depth : Nat) {rest : List Char}
    (ends : Numeral.isContinued rest = false) :
    Numeral.isContinued (layout.line depth ++ rest) = false := by
  cases same : layout.line depth with
  | nil => exact ends
  | cons c gaps =>
    have gap := blank.line depth c (by simp [same])
    simp only [isGap, Bool.or_eq_true, beq_iff_eq] at gap
    obtain ((rfl | rfl) | rfl) | rfl := gap <;> rfl

theorem isContinued_items_append (layout : Layout) (items : List Value) (depth : Nat)
    {rest : List Char} (ends : Numeral.isContinued rest = false) :
    Numeral.isContinued (Value.writeItems layout depth items ++ rest) = false := by
  cases items with
  | nil => rwa [Value.writeItems]
  | cons item more => rw [Value.writeItems]; rfl

theorem isContinued_members_append (layout : Layout) (members : List (String × Value))
    (depth : Nat) {rest : List Char} (ends : Numeral.isContinued rest = false) :
    Numeral.isContinued (Value.writeMembers layout depth members ++ rest) = false := by
  cases members with
  | nil => rwa [Value.writeMembers]
  | cons member more => rw [Value.writeMembers]; rfl

theorem scanFrom_number {number : Number} (exact : (Value.number number).IsExact)
    {rest : List Char} (ends : Numeral.isContinued rest = false) :
    scanFrom 0 (number.text ++ rest) = .scalar number.scalar :: scanFrom 0 rest := by
  cases number with
  | integer value => rw [scanFrom_text_integer value ends, Number.scalar_integer]
  | double value => simp [Value.IsExact] at exact

-- The text behind a value matters for numbers alone, which end where nothing continues them.
mutual

theorem scanFrom_value (blank : layout.IsBlank) {value : Value} (exact : value.IsExact) (depth : Nat)
    {rest : List Char} (ends : Numeral.isContinued rest = false) :
    scanFrom 0 (value.write layout depth ++ rest) = value.tokens ++ scanFrom 0 rest := by
  cases value with
  | null => rfl
  | bool value => cases value <;> rfl
  | number number => rw [Value.write, scanFrom_number exact ends, Value.tokens, List.singleton_append]
  | text text => rw [Value.write, scanFrom_write, Value.tokens, List.singleton_append]
  | array items =>
    cases items with
    | nil => rfl
    | cons first more =>
      obtain ⟨exactFirst, exactMore⟩ := exact
      have closes : Numeral.isContinued (layout.line depth ++ ']' :: rest) = false :=
        isContinued_line_append blank depth rfl
      have solid := isContinued_items_append layout more (depth + 1) closes
      have back := scanFrom_items blank exactMore (depth + 1) closes
      have front := scanFrom_value blank exactFirst (depth + 1) solid
      simp only [Value.write, Value.tokens, List.cons_append, List.append_assoc, List.nil_append]
      rw [scanFrom_openArray, scanFrom_line blank, front, back, scanFrom_line blank, scanFrom_closeArray]
  | object members =>
    cases members with
    | nil => rfl
    | cons member more =>
      obtain ⟨key, first⟩ := member
      obtain ⟨exactFirst, exactMore⟩ := exact
      have closes : Numeral.isContinued (layout.line depth ++ '}' :: rest) = false :=
        isContinued_line_append blank depth rfl
      have solid := isContinued_members_append layout more (depth + 1) closes
      have back := scanFrom_members blank exactMore (depth + 1) closes
      have front := scanFrom_value blank exactFirst (depth + 1) solid
      simp only [Value.write, Value.tokens, List.cons_append, List.append_assoc, List.nil_append]
      rw [scanFrom_openObject, scanFrom_line blank, scanFrom_write, scanFrom_layout_colon blank, front,
        back, scanFrom_line blank, scanFrom_closeObject]

theorem scanFrom_items (blank : layout.IsBlank) {items : List Value}
    (exact : Value.AreExactItems items) (depth : Nat) {rest : List Char}
    (ends : Numeral.isContinued rest = false) :
    scanFrom 0 (Value.writeItems layout depth items ++ rest) =
      Value.itemTokens items ++ scanFrom 0 rest := by
  cases items with
  | nil => rfl
  | cons item more =>
    obtain ⟨exactItem, exactMore⟩ := exact
    have solid := isContinued_items_append layout more depth ends
    have back := scanFrom_items blank exactMore depth ends
    have front := scanFrom_value blank exactItem depth solid
    simp only [Value.writeItems, Value.itemTokens, List.cons_append, List.append_assoc]
    rw [scanFrom_comma, scanFrom_line blank, front, back]

theorem scanFrom_members (blank : layout.IsBlank) {members : List (String × Value)}
    (exact : Value.AreExactMembers members) (depth : Nat) {rest : List Char}
    (ends : Numeral.isContinued rest = false) :
    scanFrom 0 (Value.writeMembers layout depth members ++ rest) =
      Value.memberTokens members ++ scanFrom 0 rest := by
  cases members with
  | nil => rfl
  | cons member more =>
    obtain ⟨key, value⟩ := member
    obtain ⟨exactValue, exactMore⟩ := exact
    have solid := isContinued_members_append layout more depth ends
    have back := scanFrom_members blank exactMore depth ends
    have front := scanFrom_value blank exactValue depth solid
    simp only [Value.writeMembers, Value.memberTokens, List.cons_append, List.append_assoc]
    rw [scanFrom_comma, scanFrom_line blank, scanFrom_write, scanFrom_layout_colon blank, front, back]

end

end Blank

theorem scan_write {layout : Layout} (blank : layout.IsBlank) {value : Value} (exact : value.IsExact)
    (depth : Nat) : scan (String.ofList (value.write layout depth)) = value.tokens := by
  have scans : scanFrom 0 (value.write layout depth ++ []) = _ := scanFrom_value blank exact depth rfl
  rw [scan, String.toList_ofList]
  simpa [scanFrom] using scans

end Token

/-! ## From the tokens to the tree -/

namespace Growth

/-- The growth in which the awaited value has been put into the innermost of some containers. -/
def fill (node : Node) : List Frame → Growth
  | [] => .complete node
  | frame :: outer => .inside (frame.put node) outer

/-- A value is awaited, to be put into the innermost of some containers. -/
inductive Awaits : Growth → List Frame → Prop where
  | empty : Awaits .empty []
  | firstItem {items : List Node} {outer : List Frame} :
    Awaits (.inside (.array items .start) outer) (.array items :: outer)
  | item {items : List Node} {outer : List Frame} :
    Awaits (.inside (.array items .afterComma) outer) (.array items :: outer)
  | member {members : List (Literal × Node)} {key : Literal} {outer : List Frame} :
    Awaits (.inside (.object members (.afterColon key)) outer) (.object members key :: outer)

/-- The tokens of a value put its tree where a value is awaited. -/
def Fills (value : Value) : Prop :=
  ∀ growth outer, Awaits growth outer → value.tokens.foldl step growth = fill value.node outer

/-- The growth inside an array that holds some values. -/
def inArray (items : List Value) (place : Place) (outer : List Frame) : Growth :=
  .inside (.array (items.map Value.node).reverse place) outer

/-- The growth inside an object that holds some members. -/
def inObject (members : List (String × Value)) (place : Place) (outer : List Frame) : Growth :=
  .inside (.object (members.map fun (key, value) => (.written key, value.node)).reverse place) outer

section Containers

variable {growth : Growth} {place : Place} {outer : List Frame}

theorem Awaits.step_scalar (awaits : growth.Awaits outer) (scalar : Scalar) :
    growth.step (.scalar scalar) = fill (.scalar scalar) outer := by
  cases awaits <;> rfl

theorem Awaits.step_openArray (awaits : growth.Awaits outer) :
    growth.step .openArray = inArray [] .start outer := by
  cases awaits <;> rfl

theorem Awaits.step_openObject (awaits : growth.Awaits outer) :
    growth.step .openObject = inObject [] .start outer := by
  cases awaits <;> rfl

theorem step_inArray_comma (items : List Value) :
    (inArray items .afterValue outer).step .comma = inArray items .afterComma outer :=
  rfl

theorem step_inObject_comma (members : List (String × Value)) :
    (inObject members .afterValue outer).step .comma = inObject members .afterComma outer :=
  rfl

theorem close_eq_fill (level : Level) : close level outer = fill (level.finish .closed) outer := by
  cases outer <;> rfl

theorem step_inArray_closeArray (items : List Value) (ends : place = .start ∨ place = .afterValue) :
    (inArray items place outer).step .closeArray = fill (Value.array items).node outer := by
  have finish : (Level.array (items.map Value.node).reverse place).finish .closed =
      (Value.array items).node := by
    rw [Level.finish, List.foldl_reverse, List.foldr_map, Value.node]
    congr 1
    induction items with
    | nil => rfl
    | cons item more ih => rw [List.foldr_cons, ih, Value.itemNodes]
  rw [← finish, ← close_eq_fill]
  obtain rfl | rfl := ends <;> rfl

theorem step_inObject_closeObject (members : List (String × Value))
    (ends : place = .start ∨ place = .afterValue) :
    (inObject members place outer).step .closeObject = fill (Value.object members).node outer := by
  have finish : (Level.object (members.map fun (key, value) => (.written key, value.node)).reverse
      place).finish .closed = (Value.object members).node := by
    rw [Level.finish, List.foldl_reverse, List.foldr_map, Value.node]
    congr 1
    induction members with
    | nil => rfl
    | cons member more ih => rw [List.foldr_cons, ih, Value.memberNodes]
  rw [← finish, ← close_eq_fill]
  obtain rfl | rfl := ends <;> rfl

variable (outer) in
theorem Fills.foldl_inArray {item : Value} (fills : Fills item) (items : List Value)
    (begins : place = .start ∨ place = .afterComma) :
    item.tokens.foldl step (inArray items place outer) =
      inArray (items ++ [item]) .afterValue outer := by
  have awaits : (inArray items place outer).Awaits
      (.array (items.map Value.node).reverse :: outer) := by
    obtain rfl | rfl := begins
    · exact .firstItem
    · exact .item
  rw [fills _ _ awaits, inArray, List.map_append, List.reverse_append]
  rfl

variable (outer) in
theorem Fills.foldl_inObject {value : Value} (fills : Fills value) (members : List (String × Value))
    (begins : place = .start ∨ place = .afterComma) (key : String) :
    (.scalar (.text (.written key)) :: .colon :: value.tokens).foldl step
        (inObject members place outer) =
      inObject (members ++ [(key, value)]) .afterValue outer := by
  have colon : ((inObject members place outer).step (.scalar (.text (.written key)))).step .colon =
      inObject members (.afterColon (.written key)) outer := by
    obtain rfl | rfl := begins <;> rfl
  rw [List.foldl_cons, List.foldl_cons, colon]
  refine (fills _ _ .member).trans ?_
  rw [inObject, List.map_append, List.reverse_append]
  rfl

end Containers

mutual

theorem fills (value : Value) : Fills value := by
  intro growth outer awaits
  cases value with
  | null => exact awaits.step_scalar _
  | bool value => exact awaits.step_scalar _
  | number number => exact awaits.step_scalar _
  | text text => exact awaits.step_scalar _
  | array items =>
    rw [← step_inArray_closeArray items (.inr rfl)]
    cases items with
    | nil =>
      simp only [Value.tokens, List.foldl_cons, List.foldl_nil, awaits.step_openArray]
      rfl
    | cons first more =>
      simp only [Value.tokens, List.cons_append, List.foldl_cons, List.foldl_append, List.foldl_nil]
      rw [awaits.step_openArray, (fills first).foldl_inArray outer [] (.inl rfl), foldl_items]
      rfl
  | object members =>
    rw [← step_inObject_closeObject members (.inr rfl)]
    cases members with
    | nil =>
      simp only [Value.tokens, List.foldl_cons, List.foldl_nil, awaits.step_openObject]
      rfl
    | cons member more =>
      obtain ⟨key, first⟩ := member
      have front := (fills first).foldl_inObject outer [] (.inl rfl) key
      rw [List.foldl_cons, List.foldl_cons] at front
      simp only [Value.tokens, List.cons_append, List.foldl_cons, List.foldl_append, List.foldl_nil]
      rw [awaits.step_openObject, front, foldl_members]
      rfl

theorem foldl_items (items before : List Value) (outer : List Frame) :
    (Value.itemTokens items).foldl step (inArray before .afterValue outer) =
      inArray (before ++ items) .afterValue outer := by
  cases items with
  | nil => rw [List.append_nil]; rfl
  | cons item more =>
    rw [Value.itemTokens, List.cons_append, List.foldl_cons, List.foldl_append, step_inArray_comma,
      (fills item).foldl_inArray outer before (.inr rfl), foldl_items, ← List.append_cons]

theorem foldl_members (members before : List (String × Value)) (outer : List Frame) :
    (Value.memberTokens members).foldl step (inObject before .afterValue outer) =
      inObject (before ++ members) .afterValue outer := by
  cases members with
  | nil => rw [List.append_nil]; rfl
  | cons member more =>
    obtain ⟨key, value⟩ := member
    have front := (fills value).foldl_inObject outer before (.inr rfl) key
    rw [Value.memberTokens, List.foldl_append, List.foldl_cons, step_inObject_comma, front,
      foldl_members, ← List.append_cons]

end

end Growth

/-- Reading what is written for a value without doubles gives the tree of the value. -/
theorem Document.ofText_write {layout : Layout} (blank : layout.IsBlank) {value : Value}
    (exact : value.IsExact) (depth : Nat) :
    Document.ofText (String.ofList (value.write layout depth)) = .value value.node false := by
  rw [ofText, Token.scan_write blank exact, ofTokens, Growth.fills value _ _ .empty]
  rfl

end Polyfill.Json
