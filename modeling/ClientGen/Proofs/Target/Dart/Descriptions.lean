import ClientGen.Proofs.Target.Emission
import ClientGen.Proofs.Text.SourceLines
import ClientGen.Proofs.Text.Trimming

/-! # Descriptions in Dart clients

The description of a method is a documentation comment above its signature, with a marker on each
line. Lines of a description end at line feeds; in Dart they end at carriage returns as well. So
what stands behind a carriage return inside a line is a line of its own, without a marker.
-/

namespace ClientGen.Target.Dart

open Template Text

/-- Whether a line of a class says nothing but documentation: it is blank, or behind the marker of
    documentation. -/
def isDocumentation (line : List Char) : Bool :=
  line.all isBlank || "  ///".toList.isPrefixOf line

/-- The source of the documentation of a description. -/
def documentation (description : String) : String :=
  Naming.docComment description "  ///"

/-- What a line of a description has behind carriage returns, unless it is documentation by
    itself. -/
def strayPieces (line : String) : List (List Char) :=
  (sourceLines true (trimEnd line).toList).tail.filter (!isDocumentation ·)

/-- A line of a description behind the marker. -/
def marked (line : String) : String :=
  let line := trimEnd line
  if line.isEmpty then "  ///" else "  ///" ++ " " ++ line

theorem isDocumentation_marker (line : List Char) :
    isDocumentation ("  /// ".toList ++ line) = true := by
  have marker : "  ///".toList <+: "  /// ".toList := by decide
  rw [isDocumentation, Bool.or_eq_true, List.isPrefixOf_iff_prefix]
  exact .inr (marker.trans (List.prefix_append _ line))

/-- The lines of a marked line are documentation if and only if none of its pieces is stray. -/
theorem marked_isDocumentation_iff (line : String) :
    (∀ piece ∈ sourceLines true (marked line).toList, isDocumentation piece = true)
      ↔ strayPieces line = [] := by
  rw [marked, strayPieces]
  cases blank : (trimEnd line).isEmpty with
  | true =>
      have empty : trimEnd line = "" := String.isEmpty_iff.mp blank
      rw [if_pos rfl, empty, sourceLines_unbroken (by decide)]
      exact iff_of_true (by decide) rfl
  | false =>
      have text : ("  ///" ++ " " ++ trimEnd line).toList
          = "  /// ".toList ++ (trimEnd line).toList := String.toList_append
      obtain ⟨first, pieces, found⟩ := List.exists_cons_of_ne_nil
        (sourceLines_ne_nil true (trimEnd line).toList)
      rw [if_neg Bool.false_ne_true, text, sourceLines_unbroken_append (by decide), found,
        List.modifyHead_cons, List.forall_mem_cons, and_iff_right (isDocumentation_marker first),
        List.tail_cons, List.filter_eq_nil_iff]
      simp only [Bool.not_eq_true', Bool.not_eq_false]

theorem getLast?_marked_ne (line : String) : (marked line).toList.getLast? ≠ some '\r' := by
  rw [marked]
  cases blank : (trimEnd line).isEmpty with
  | true =>
      rw [if_pos rfl]
      decide
  | false =>
      have nonempty : (trimEnd line).toList ≠ [] := by simpa using blank
      rw [if_neg Bool.false_ne_true, String.toList_append,
        List.getLast?_append_of_ne_nil _ nonempty]
      exact getLast?_trimEnd_ne (by decide) line

theorem documentation_eq (description : String) : documentation description
    = "\n".intercalate ((lines (trimEnd description)).map marked) := rfl

theorem getLast?_documentation_ne (description : String) :
    (documentation description).toList.getLast? ≠ some '\r' := by
  rw [documentation_eq, String.toList_intercalate]
  exact getLast?_intercalate_ne (by simp [getLast?_marked_ne])

/-- The documentation of a description is nothing else if and only if no line of it has stray
    pieces. -/
theorem documentation_iff (description : String) :
    (∀ line ∈ sourceLines true (documentation description).toList, isDocumentation line = true)
      ↔ ∀ line ∈ lines (trimEnd description), strayPieces line = [] := by
  have feed : "\n".toList = ['\n'] := rfl
  rw [documentation_eq, String.toList_intercalate, List.map_map, feed]
  by_cases none : lines (trimEnd description) = []
  · rw [none]
    exact iff_of_true (by decide) (List.forall_mem_nil _)
  · rw [sourceLines_intercalate (by simpa using none) (by simp [getLast?_marked_ne])]
    simp only [List.forall_mem_flatMap, List.forall_mem_map, Function.comp_apply,
      marked_isDocumentation_iff]

/-- The source of a client up to the description of a method, behind some methods. -/
def sourceBefore (sdk : Sdk) (api : Api) (earlier : List Method) : String :=
  clientForm.head sdk (heading api)
    ++ String.join (earlier.map (clientForm.method api.resolvedModuleName))

/-- The source of a client from the signature of a method on, with the methods that follow. -/
def sourceFrom (api : Api) (m : Method) (later : List Method) : String :=
  let r := clientForm.routine m.name m.params m.returns m.description
  clientForm.signature api.resolvedModuleName r ++ clientForm.parameterMap r
    ++ clientForm.call r.key r.result ++ clientForm.ending
    ++ String.join (later.map (clientForm.method api.resolvedModuleName)) ++ clientForm.foot

variable {sdk : Sdk} {api : Api} {earlier later : List Method} {m : Method} {d : String}

theorem client_eq_around (split : api.methods = earlier ++ m :: later)
    (described : m.description = some d) (nonempty : d ≠ "") :
    clientForm.client sdk api = sourceBefore sdk api earlier ++ "\n" ++ documentation d ++ "\n"
      ++ sourceFrom api m later := by
  have given : stated m.description = some d := by
    rw [described, stated]
    simp [nonempty]
  have block (moduleName : String) {r : Routine} (h : r.description = some d) :
      clientForm.block moduleName r = "\n" ++ documentation d ++ "\n"
        ++ clientForm.signature moduleName r ++ clientForm.parameterMap r
        ++ clientForm.call r.key r.result ++ clientForm.ending := by
    rw [ClientForm.block, h]
    show "\n" ++ (documentation d ++ "\n") ++ _ ++ "" ++ _ ++ _ ++ _ = _
    simp only [String.append_assoc, String.empty_append]
  rw [ClientForm.client, split, List.map_append, List.map_cons, String.join_append,
    String.join_cons, ClientForm.method, block _ given]
  simp only [sourceBefore, sourceFrom, String.append_assoc]

theorem sourceBefore_ended (sdk : Sdk) (api : Api) (earlier : List Method) :
    ∃ c ≠ '\r', [c, '\n'] <:+ (sourceBefore sdk api earlier).toList := by
  obtain rfl | ⟨others, last, rfl⟩ := List.eq_nil_or_concat earlier
  · refine ⟨';', by decide, ?_⟩
    have ending : [';', '\n'] <:+ ("');\n\n  /// Closes the underlying HTTP client.\n"
        ++ "  void close() => _rpc.close();\n").toList := by
      decide
    show _ <:+ (_ ++ _ ++ "").toList
    rw [String.append_empty, String.toList_append]
    exact ending.trans (List.suffix_append _ _)
  · refine ⟨'\x7d', by decide, ?_⟩
    have ending : ['\x7d', '\n'] <:+ clientForm.ending.toList := by decide
    rw [sourceBefore, List.concat_eq_append, List.map_append, String.join_append,
      List.map_singleton, String.join_cons, String.join_nil, String.append_empty,
      ClientForm.method, ClientForm.block]
    simp only [String.toList_append, ← List.append_assoc]
    exact ending.trans (List.suffix_append _ _)

theorem sourceFrom_signature (api : Api) (m : Method) (later : List Method) :
    "  Future<".toList <+: (sourceFrom api m later).toList := by
  have opening (result : Option String) (identifier : String) :
      "  Future<".toList
        <+: (clientForm.opening api.resolvedModuleName result identifier).toList := by
    cases result with
    | none =>
        show _ <+: ("  Future<void> " ++ identifier).toList
        rw [String.toList_append]
        exact List.IsPrefix.trans (by decide) (List.prefix_append _ _)
    | some type =>
        show _ <+: ("  Future<" ++ type ++ "> " ++ identifier).toList
        simp only [String.toList_append, List.append_assoc]
        exact List.prefix_append _ _
  simp only [sourceFrom, ClientForm.signature, String.toList_append, List.append_assoc]
  exact (opening _ _).trans (List.prefix_append _ _)

/-- Between the method before and the signature of a method there are a blank line and the lines
    of the description. -/
theorem client_sourceLines (sdk : Sdk) (split : api.methods = earlier ++ m :: later)
    (described : m.description = some d) (nonempty : d ≠ "") :
    ∃ above signature below,
      sourceLines true (sourceBefore sdk api earlier).toList = above ++ [[]] ∧
      sourceLines true (sourceFrom api m later).toList = signature :: below ∧
      "  Future<".toList <+: signature ∧
      sourceLines true (clientForm.client sdk api).toList = above
        ++ ([] :: sourceLines true (documentation d).toList) ++ signature :: below := by
  obtain ⟨c, carriage, ended⟩ := sourceBefore_ended sdk api earlier
  obtain ⟨above, linesBefore⟩ := sourceLines_ended true carriage ended
  obtain ⟨signature, below, linesFrom, opening⟩ := exists_sourceLines_eq_cons true (by decide)
    (sourceFrom_signature api m later)
  have last : (sourceBefore sdk api earlier).toList.getLast? ≠ some '\r' := by
    obtain ⟨front, whole⟩ := ended
    rw [← whole]
    simp
  have text : (clientForm.client sdk api).toList = (sourceBefore sdk api earlier).toList
      ++ '\n' :: ((documentation d).toList ++ '\n' :: (sourceFrom api m later).toList) := by
    rw [client_eq_around split described nonempty]
    simp [String.toList_append]
  refine ⟨above, signature, below, linesBefore, linesFrom, opening, ?_⟩
  rw [text, sourceLines_append_feed last, sourceLines_append_feed (getLast?_documentation_ne d),
    linesBefore, linesFrom]
  simp

/-- The lines between the method before and the signature of a method are blank or documentation
    if and only if no line of the description has stray pieces. -/
theorem emitClient_documentation_iff (valid : sdk.check = .ok ())
    (split : api.methods = earlier ++ m :: later) (described : m.description = some d)
    (nonempty : d ≠ "") :
    ∃ target source, builtin "dart" sdk = .ok target ∧ target.emitClient api = .ok source ∧
      ∃ above signature below,
        sourceLines true (sourceBefore sdk api earlier).toList = above ++ [[]] ∧
        sourceLines true (sourceFrom api m later).toList = signature :: below ∧
        "  Future<".toList <+: signature ∧
        let between := [] :: sourceLines true (documentation d).toList
        sourceLines true source.toList = above ++ between ++ signature :: below ∧
        ((∀ line ∈ between, isDocumentation line = true)
          ↔ ∀ line ∈ lines (trimEnd d), strayPieces line = []) := by
  obtain ⟨target, built, describes⟩ := target_describes valid
  obtain ⟨above, signature, below, before, behind, opening, whole⟩ :=
    client_sourceLines sdk split described nonempty
  refine ⟨target, _, built, describes.emitClient api, above, signature, below, before, behind,
    opening, whole, ?_⟩
  rw [List.forall_mem_cons, and_iff_right (show isDocumentation [] = true by decide),
    documentation_iff]

theorem emitClient_documentation_iff_greeting :
    let m : Method := { name := "Greet", description := some "Says\r\n\r\n  hello.\r\r" }
    let api : Api := { package := "ledger", methods := [{ name := "Open" }, m] }
    ({} : Sdk).check = .ok () ∧ api.methods = [{ name := "Open" }] ++ m :: [] ∧
      m.description = some "Says\r\n\r\n  hello.\r\r" ∧ "Says\r\n\r\n  hello.\r\r" ≠ "" ∧
      ∃ target source, builtin "dart" {} = .ok target ∧ target.emitClient api = .ok source ∧
        ∃ above signature below,
          sourceLines true source.toList = above
            ++ [[], "  /// Says".toList, "  ///".toList, "  ///   hello.".toList]
            ++ signature :: below ∧
          "  Future<".toList <+: signature := by
  intro m api
  obtain ⟨target, source, built, emitted, above, signature, below, -, -, opening, whole, -⟩ :=
    emitClient_documentation_iff Sdk.default_check
      (show api.methods = [{ name := "Open" }] ++ m :: [] from rfl) rfl (by decide)
  exact ⟨Sdk.default_check, rfl, rfl, by decide, target, source, built, emitted, above, signature,
    below, whole, opening⟩

/-- What stands behind a carriage return inside a description is a line without a marker. -/
theorem emitClient_documentation_strayReturn :
    let m : Method := { name := "Greet", description := some "Greets.\rvoid leak() => exit(0);" }
    let api : Api := { package := "ledger", methods := [m] }
    ∃ target source, builtin "dart" {} = .ok target ∧ target.emitClient api = .ok source ∧
      ∃ above signature below,
        sourceLines true (sourceBefore {} api []).toList = above ++ [[]] ∧
        sourceLines true (sourceFrom api m []).toList = signature :: below ∧
        "  Future<".toList <+: signature ∧
        sourceLines true source.toList = above
          ++ [[], "  /// Greets.".toList, "void leak() => exit(0);".toList]
          ++ signature :: below ∧
        isDocumentation "void leak() => exit(0);".toList = false := by
  intro m api
  obtain ⟨target, built, describes⟩ := target_describes Sdk.default_check
  obtain ⟨above, signature, below, before, behind, opening, whole⟩ :=
    client_sourceLines {} (show api.methods = [] ++ m :: [] from rfl) rfl (by decide)
  exact ⟨target, _, built, describes.emitClient api, above, signature, below, before, behind,
    opening, whole, by decide⟩

end ClientGen.Target.Dart
