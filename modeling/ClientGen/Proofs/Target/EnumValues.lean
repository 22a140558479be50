import ClientGen.Proofs.Model.EnumValues
import ClientGen.Proofs.Model.Loading
import ClientGen.Proofs.Target.Emission
import ClientGen.Proofs.Template.Literal

/-! # Whole numbers in enumerations

A whole number that a document gives to a member of an enumeration is written into the types file
in decimal digits, as long as it fits into 64 bits, with or without a sign. Any other whole number
has become floating-point on the way, and its literal is not the number.
-/

namespace ClientGen

open Template Text

namespace Template.Environment

theorem isDigit_of_mem_decimal {i : Int} {c : Char} (mem : c ∈ (decimal i).toList) :
    c = '-' ∨ c.isDigit = true := by
  rw [decimal, String.toList_ofList, List.mem_append] at mem
  rcases mem with sign | digit
  · split at sign
    · exact .inl (List.mem_singleton.mp sign)
    · cases sign
  · exact .inr (Nat.isDigit_of_mem_toDigits (by decide) (Nat.le_refl 10) digit)

theorem exists_mark_mem_plainText (x : Float) :
    ∃ c ∈ (Decimal.plainText x).toList, c = '.' ∨ c = 'N' ∨ c = 'i' := by
  have signed (negative : Bool) {cs : List Char} {c : Char} (mem : c ∈ cs) :
      c ∈ (Decimal.signed negative cs).toList := by
    rw [Decimal.signed, String.toList_ofList]
    split
    · exact .tail _ mem
    · exact mem
  have point (d : Decimal.Digits) : '.' ∈ d.positional := by
    rw [Decimal.Digits.positional]
    split
    · simp
    · split <;> simp
  unfold Decimal.plainText
  split
  · exact ⟨'N', by decide, .inr (.inl rfl)⟩
  · exact ⟨'i', signed _ (by decide), .inr (.inr rfl)⟩
  · exact ⟨'.', signed _ (by decide), .inl rfl⟩
  · exact ⟨'.', signed _ (point _), .inl rfl⟩

theorem plainText_ne_decimal {x : Float} {i : Int} : Decimal.plainText x ≠ decimal i := by
  intro same
  obtain ⟨c, mem, mark⟩ := exists_mark_mem_plainText x
  rw [same] at mem
  have digit := isDigit_of_mem_decimal mem
  rcases mark with rfl | rfl | rfl
  all_goals exact absurd digit (by decide)

/-- What a whole number has been stored as is written as the number if and only if it fits. -/
theorem literal_eq_decimal_iff {n : Int} {u : Json} {value : Scalar} (quoting : Quoting)
    (stored : Json.StoredAs n u) (decoded : Scalar.decode u = .ok value) :
    literal quoting value.toValue = decimal n ↔ Json.minInt ≤ n ∧ n ≤ Json.maxInt := by
  have whole (i : Int) : literal quoting (.int i) = decimal i := toString_eq_decimal i
  rw [Json.StoredAs] at stored
  split at stored
  · rename_i fits
    subst stored
    cases decoded
    refine iff_of_true ?_ fits
    split
    · exact whole n
    · rename_i large
      have same : ((n.toNat : Nat) : Int) = n := by
        rw [Scalar.maxSigned] at large
        omega
      exact (whole n.toNat).trans (congrArg decimal same)
  · rename_i exceeds
    obtain ⟨x, rfl⟩ := stored
    cases decoded
    exact iff_of_false plainText_ne_decimal exceeds

end Template.Environment

namespace Target

open Environment

variable {quoting : Quoting} {name : String} {members members' : List Member} {member : Member}

/-- The pass does not depend on the values of members. -/
def Pass.IgnoresValues (pass : Pass Member) : Prop :=
  ∀ name last (member : Member) value,
    pass.part name last { member with value } = pass.part name last member

/-- The pass shows the value of each member as a literal, with text of its own around it. -/
def Pass.ShowsValues (pass : Pass Member) (quoting : Quoting) : Prop :=
  ∃ (before : String → String → String) (after : Bool → String), ∀ name last (member : Member),
    pass.part name last member
      = before name member.name ++ literal quoting member.value.toValue ++ after last

/-- The last pass shows the values, and no other depends on them. -/
def TypeForm.ShowsValues (form : TypeForm Member) (quoting : Quoting) : Prop :=
  ∃ others pass, form.passes = others ++ [pass] ∧ (∀ other ∈ others, other.IgnoresValues) ∧
    pass.ShowsValues quoting

theorem joinRounds_append {α : Type} (text : Bool → α → String) (before : List α) (x : α)
    (after : List α) : joinRounds text (before ++ x :: after)
      = String.join (before.map (text false))
        ++ (text after.isEmpty x ++ joinRounds text after) := by
  induction before with
  | nil => rw [List.map_nil, String.join_nil, String.empty_append]; rfl
  | cons y rest ih =>
      have more : (rest ++ x :: after).isEmpty = false := by simp
      rw [List.cons_append, joinRounds, more, ih, List.map_cons, String.join_cons,
        String.append_assoc]

theorem Pass.text_append {α : Type} (pass : Pass α) (name : String) (before : List α) (x : α)
    (after : List α) : pass.text name (before ++ x :: after)
      = pass.opening name ++ (String.join (before.map (pass.part name false))
        ++ (pass.part name after.isEmpty x ++ joinRounds (pass.part name) after)) := by
  have nonempty : (before ++ x :: after).isEmpty = false := by simp
  rw [Pass.text, nonempty, joinRounds_append]
  rfl

theorem Pass.IgnoresValues.text_eq {pass : Pass Member} (h : pass.IgnoresValues) (name : String)
    (members : List Member) (member : Member) (members' : List Member) (value : Scalar) :
    pass.text name (members ++ { member with value } :: members')
      = pass.text name (members ++ member :: members') := by
  rw [Pass.text_append, Pass.text_append, h]

/-- The source of an enumeration holds the value of a member in one place. -/
theorem TypeForm.ShowsValues.block_eq {form : TypeForm Member} (h : form.ShowsValues quoting)
    (name : String) (members : List Member) (member : Member) (members' : List Member) :
    ∃ above below, ∀ value,
      form.block name (members ++ { member with value } :: members')
        = above ++ literal quoting value.toValue ++ below := by
  obtain ⟨others, pass, passes, ignored, before, after, shown⟩ := h
  refine ⟨String.join (others.map (·.text name (members ++ member :: members')))
      ++ (pass.opening name
        ++ (String.join (members.map (pass.part name false)) ++ before name member.name)),
    after members'.isEmpty ++ (joinRounds (pass.part name) members' ++ form.closing name),
    fun value => ?_⟩
  have same : others.map (·.text name (members ++ { member with value } :: members'))
      = others.map (·.text name (members ++ member :: members')) :=
    List.map_congr_left fun other mem =>
      (ignored other mem).text_eq name members member members' value
  rw [TypeForm.block, passes, List.map_append, same, String.join_append, List.map_singleton,
    String.join_cons, String.join_nil, Pass.text_append, shown]
  simp only [String.append_assoc, String.append_empty]

theorem TypesForm.source_setValue {form : TypesForm} (shows : form.enum.ShowsValues quoting)
    (sdk : Sdk) {types : Types} {i j : Nat} {value : Scalar}
    (held : types.value? i j = some value) :
    ∃ above below, ∀ s, form.source sdk (types.setValue i j s)
      = above ++ literal quoting s.toValue ++ below := by
  obtain ⟨enums, name, members, member, members', enums', -, -, set⟩ := Types.exists_members held
  obtain ⟨above, below, block⟩ := shows.block_eq name members member members'
  refine ⟨form.head sdk types.package
      ++ (String.join (types.types.map fun type => form.record.block type.name type.fields)
        ++ (String.join (enums.map fun enum => form.enum.block enum.name enum.values) ++ above)),
    below ++ String.join (enums'.map fun enum => form.enum.block enum.name enum.values),
    fun s => ?_⟩
  rw [set, TypesForm.source, List.map_append, List.map_cons, String.join_append, String.join_cons,
    block]
  simp only [String.append_assoc]

theorem Dart.enumForm_showsValues : Dart.enumForm.ShowsValues .dart :=
  ⟨[], Dart.memberPass, rfl, List.forall_mem_nil _,
    fun _ member => "  " ++ Dart.identifier member ++ "(",
    fun last => ")" ++ ((if last then ";" else ",") ++ "\n"),
    fun _ _ _ => by simp [Dart.memberPass, String.append_assoc]⟩

theorem Python.enumForm_showsValues : Python.enumForm.ShowsValues .json :=
  ⟨[], Python.memberPass, rfl, List.forall_mem_nil _,
    fun _ member => "    " ++ Text.uppercase (Naming.snakeCase member) ++ " = ", fun _ => "\n",
    fun _ _ _ => by simp [Python.memberPass, String.append_assoc]⟩

theorem Rust.enumForm_showsValues : Rust.enumForm.ShowsValues .rust :=
  ⟨[Rust.variantPass], Rust.valuePass, rfl, List.forall_mem_singleton.mpr fun _ _ _ _ => rfl,
    fun _ member => "            Self::" ++ Naming.upperCamel member ++ " => serde_json::json!(",
    fun _ => "),\n", fun _ _ _ => by simp [Rust.valuePass, String.append_assoc]⟩

theorem Go.enumForm_showsValues : Go.enumForm.ShowsValues .json :=
  ⟨[], Go.memberPass, rfl, List.forall_mem_nil _,
    fun name member => "\t" ++ Naming.upperCamel name ++ Naming.upperCamel member ++ " = ",
    fun _ => "\n", fun _ _ _ => by simp [Go.memberPass, String.append_assoc]⟩

theorem builtinForms_showsValues {form : PackageForm} (listed : form ∈ builtinForms) :
    ∃ quoting, form.types.enum.ShowsValues quoting := by
  simp only [builtinForms, List.mem_cons, List.not_mem_nil, or_false] at listed
  obtain rfl | rfl | rfl | rfl := listed
  · exact ⟨_, Dart.enumForm_showsValues⟩
  · exact ⟨_, Python.enumForm_showsValues⟩
  · exact ⟨_, Rust.enumForm_showsValues⟩
  · exact ⟨_, Go.enumForm_showsValues⟩

/-- Where a document gives a member of an enumeration a whole number, the types file has a literal,
    in a place that the value has no other say in. The literal is the number if and only if the
    number fits. -/
theorem emitTypes_decimal_iff {language : String} (known : language ∈ builtinLanguages) {sdk : Sdk}
    (valid : sdk.check = .ok ()) {content file : String} {v : Json} {types : Types} {i j : Nat}
    {n : Int} (spelled : Json.Spells content v)
    (written : Json.at? (memberPath i j) v = some (.int n))
    (read : ModelKind.types.parse .json file content = .ok types) :
    ∃ target, builtin language sdk = .ok target ∧
      ∃ quoting value above below, types.value? i j = some value ∧
        (∀ s, target.emitTypes (types.setValue i j s)
          = .ok (above ++ literal quoting s.toValue ++ below)) ∧
        target.emitTypes types = .ok (above ++ literal quoting value.toValue ++ below) ∧
        (literal quoting value.toValue = decimal n
          ↔ -0x8000000000000000 ≤ n ∧ n ≤ 0xFFFFFFFFFFFFFFFF) := by
  obtain ⟨form, listed, rfl⟩ := exists_form known
  obtain ⟨target, built, describes⟩ := builtin_describes listed valid
  obtain ⟨quoting, shows⟩ := builtinForms_showsValues listed
  obtain ⟨u, value, held, stored, decoded⟩ :=
    ModelKind.exists_value_of_parse spelled written read
  obtain ⟨above, below, source⟩ := TypesForm.source_setValue shows sdk held
  have emitted (s : Scalar) : target.emitTypes (types.setValue i j s)
      = .ok (above ++ literal quoting s.toValue ++ below) := by
    rw [describes.emitTypes, source]
  refine ⟨target, built, quoting, value, above, below, held, emitted, ?_, ?_⟩
  · rw [← emitted, Types.setValue_self held]
  · exact literal_eq_decimal_iff quoting stored decoded

/-- The document up to the value of its only member. -/
def idsOpening : String :=
  "\x7b\"package\":\"ids\",\"enums\":[\x7b\"name\":\"Id\",\"values\":[\x7b\"name\":\"A\",\"value\":"

def idsText (n : Nat) : String :=
  idsOpening ++ toString n ++ "\x7d]\x7d]\x7d"

def idsValue (n : Nat) : Json :=
  .object [("package", .str "ids"), ("enums", .arr [.object [("name", .str "Id"),
    ("values", .arr [.object [("name", .str "A"), ("value", .int n)]])]])]

theorem idsOpening_append (rest : List Char) : idsOpening.toList ++ rest
    = '\x7b' :: '"' :: ("package".toList
      ++ '"' :: ':' :: '"' :: ("ids".toList ++ '"' :: ',' :: '"' :: ("enums".toList
      ++ '"' :: ':' :: '[' :: '\x7b' :: '"' :: ("name".toList
      ++ '"' :: ':' :: '"' :: ("Id".toList ++ '"' :: ',' :: '"' :: ("values".toList
      ++ '"' :: ':' :: '[' :: '\x7b' :: '"' :: ("name".toList
      ++ '"' :: ':' :: '"' :: ("A".toList ++ '"' :: ',' :: '"' :: ("value".toList
      ++ '"' :: ':' :: rest))))))))) := by
  rfl

theorem spells_idsText (n : Nat) : Json.Spells (idsText n) (idsValue n) := by
  have digits : (toString n).toList = Nat.toDigits 10 n := by
    rw [Nat.toString_eq_ofList_toDigits, String.toList_ofList]
  have number : Json.SpellsValue (Nat.toDigits 10 n ++ ['\x7d', ']', '\x7d', ']', '\x7d'])
      (.int n) ['\x7d', ']', '\x7d', ']', '\x7d'] :=
    .whole n fun _ mem => by cases mem; rfl
  have closing : "\x7d]\x7d]\x7d".toList = ['\x7d', ']', '\x7d', ']', '\x7d'] := rfl
  refine ⟨[], ?_, rfl⟩
  rw [idsText, String.toList_append, String.toList_append, digits, closing, List.append_assoc,
    idsOpening_append]
  have member : Json.SpellsFields true _ [("name", .str "A"), ("value", .int n)] _ :=
    .plain true "name" (.plain "A") <| .plain false "value" number <| .done rfl
  have enum : Json.SpellsFields true _ [("name", .str "Id"), ("values", .arr [_])] _ :=
    .plain true "name" (.plain "Id") <| .plain false "values" (.arr (.plain (.obj member))) <|
      .done rfl
  exact .obj <| .plain true "package" (.plain "ids") <|
    .plain false "enums" (.arr (.plain (.obj enum))) <| .done rfl

theorem at?_idsValue (n : Nat) : Json.at? (memberPath 0 0) (idsValue n) = some (.int n) := by
  simp only [idsValue, memberPath, Json.object, List.foldl_cons, List.foldl_nil, Json.insertField,
    String.reduceEq, String.reduceLT, ↓reduceIte]
  rfl

/-- Whether a document is one of a types model. -/
def isTypesText (content : String) : Bool :=
  match Json.parse content with
  | .ok value => (Schema.violations .older Schema.typesSchema value).isEmpty
  | .error _ => false

theorem exists_types_of_isTypesText {content : String} (h : isTypesText content = true)
    (file : String) : ∃ types, ModelKind.types.parse .json file content = .ok types := by
  rw [isTypesText] at h
  split at h
  · rename_i value parsed
    have accepted : Schema.findings Schema.typesSchema value file = [] :=
      (findings_eq_nil_iff typesSchema_isOlder).mpr h
    obtain ⟨types, decoded⟩ := exists_decode_types accepted
    -- `typesSchema` is long: it is not to be unfolded where it is compared with itself
    have schema : Schema.typesSchema = ModelKind.types.schema := rfl
    rw [schema] at accepted
    exact ⟨types, (ModelKind.parse_json parsed).trans
      (ModelKind.ofValue_of_findings_eq_nil accepted decoded)⟩
  · cases h

/-- The largest number that fits is written as it is. -/
theorem emitTypes_decimal_iff_largest :
    ∃ types target above below,
      ModelKind.types.parse .json "ids.json" (idsText 0xFFFFFFFFFFFFFFFF) = .ok types ∧
      builtin "go" {} = .ok target ∧
      target.emitTypes types = .ok (above ++ decimal 0xFFFFFFFFFFFFFFFF ++ below) := by
  obtain ⟨types, read⟩ := exists_types_of_isTypesText
    (show isTypesText (idsText 0xFFFFFFFFFFFFFFFF) = true by decide +kernel) "ids.json"
  obtain ⟨target, built, quoting, value, above, below, -, -, emitted, shown⟩ :=
    emitTypes_decimal_iff (show "go" ∈ builtinLanguages by decide) Sdk.default_check
      (spells_idsText _) (at?_idsValue _) read
  refine ⟨types, target, above, below, read, built, ?_⟩
  rw [emitted, shown.mpr (by decide)]
  rfl

/-- The next number is accepted as well, and is not written as it is. -/
theorem emitTypes_decimal_exceeded :
    Json.Spells (idsText 0x10000000000000000) (idsValue 0x10000000000000000) ∧
      Json.at? (memberPath 0 0) (idsValue 0x10000000000000000)
        = some (.int 0x10000000000000000) ∧
      ∃ types target value above below,
        ModelKind.types.parse .json "ids.json" (idsText 0x10000000000000000) = .ok types ∧
        builtin "dart" {} = .ok target ∧ types.value? 0 0 = some value ∧
        (∀ s, target.emitTypes (types.setValue 0 0 s)
          = .ok (above ++ literal .dart s.toValue ++ below)) ∧
        target.emitTypes types = .ok (above ++ literal .dart value.toValue ++ below) ∧
        literal .dart value.toValue ≠ decimal 0x10000000000000000 := by
  have spelled := spells_idsText 0x10000000000000000
  have written := at?_idsValue 0x10000000000000000
  obtain ⟨types, read⟩ := exists_types_of_isTypesText
    (show isTypesText (idsText 0x10000000000000000) = true by decide +kernel) "ids.json"
  obtain ⟨u, value, held, stored, decoded⟩ :=
    ModelKind.exists_value_of_parse spelled written read
  obtain ⟨target, built, describes⟩ := Dart.target_describes Sdk.default_check
  obtain ⟨above, below, source⟩ := Dart.typesForm.source_setValue Dart.enumForm_showsValues {} held
  have emitted (s : Scalar) : target.emitTypes (types.setValue 0 0 s)
      = .ok (above ++ literal .dart s.toValue ++ below) := by
    rw [describes.emitTypes]
    exact congrArg Except.ok (source s)
  refine ⟨spelled, written, types, target, value, above, below, read, built, held, emitted, ?_, ?_⟩
  · rw [← emitted, Types.setValue_self held]
  · exact fun same => absurd ((literal_eq_decimal_iff .dart stored decoded).mp same) (by decide)

end Target

end ClientGen
