import ClientGen.Proofs.Target.Emission
import ClientGen.Proofs.Target.Escaping
import ClientGen.Proofs.Target.Manifests

/-! # Package clauses of Go

The sources of a Go package start with a clause that names the package. It is the same in all of
them. A package name is made of small letters, digits and underscores, which leaves two ways in
which it is none of Go: it starts with a digit, or it is a keyword.
-/

namespace ClientGen.Target.Go

open Text

variable {sdk : Sdk}

/-- White space inside a line. -/
def isSpace (c : Char) : Bool :=
  c = ' ' || c = '\t' || c = '\r'

/-- Whether a line says nothing: it is blank or a line comment. -/
def isSilent (line : List Char) : Bool :=
  let text := line.dropWhile isSpace
  text.isEmpty || ['/', '/'].isPrefixOf text

/-- The lines of a source that say something. -/
def spoken (source : String) : List (List Char) :=
  (feedPieces source).filter (!isSilent ·)

/-- The package clause of a source: it is the first line that says something. -/
def clause? (source : String) : Option (List Char) :=
  (spoken source).head?

theorem spoken_append_feed (above below : String) :
    spoken (above ++ "\n" ++ below) = spoken above ++ spoken below := by
  have chars : (above ++ "\n" ++ below).toList = above.toList ++ '\n' :: below.toList := by simp
  rw [spoken, feedPieces, chars, splitChars_append (decide_eq_true rfl), List.filter_append]
  rfl

/-- A text of one line says that line, if it is not silent. -/
theorem spoken_line {text : String} (single : '\n' ∉ text.toList) :
    spoken text = [text.toList].filter (!isSilent ·) := by
  have inside : ∀ c ∈ text.toList, decide (c = '\n') = false := by
    intro c mem
    rw [decide_eq_false_iff_not]
    rintro rfl
    exact single mem
  rw [spoken, feedPieces, splitChars_of_not_mem inside]

theorem feed_not_mem_append {start text : String} (opening : '\n' ∉ start.toList)
    (single : '\n' ∉ text.toList) : '\n' ∉ (start ++ text).toList := by
  rw [String.toList_append, List.mem_append, not_or]
  exact ⟨opening, single⟩

/-- The clause that names a package. -/
def clauseOf (name : String) : String :=
  "package " ++ name

theorem spoken_clauseOf {name : String} (single : '\n' ∉ name.toList) :
    spoken (clauseOf name) = [(clauseOf name).toList] := by
  have first : '\n' ∉ "package ".toList := by decide
  rw [clauseOf, spoken_line (feed_not_mem_append first single), String.toList_append]
  rfl

theorem spoken_comment {text : String} (single : '\n' ∉ text.toList) :
    spoken ("// " ++ text) = [] := by
  have first : '\n' ∉ "// ".toList := by decide
  rw [spoken_line (feed_not_mem_append first single), String.toList_append]
  rfl

theorem clause?_below {above below : String} (silent : spoken above = []) :
    clause? (above ++ "\n" ++ below) = clause? below := by
  rw [clause?, spoken_append_feed, silent, List.nil_append, clause?]

/-- What a source says first if its clause stands behind a comment: the clause, unless the comment
    says something. -/
def ledBy (remark name : String) : List Char :=
  (spoken remark).headD (clauseOf name).toList

theorem ledBy_of_silent {remark : String} (silent : spoken remark = []) (name : String) :
    ledBy remark name = (clauseOf name).toList := by
  rw [ledBy, silent]
  rfl

theorem clause?_eq {remark name below : String} (single : '\n' ∉ name.toList) :
    clause? (remark ++ "\n" ++ ("" ++ "\n" ++ (clauseOf name ++ "\n" ++ below)))
      = some (ledBy remark name) := by
  have empty : spoken "" = [] := rfl
  rw [clause?, spoken_append_feed, spoken_append_feed, spoken_append_feed, empty,
    spoken_clauseOf single, ledBy]
  cases spoken remark <;> rfl

/-- The first comment of every source. -/
def notice : String :=
  "// Code generated by sdkgen. DO NOT EDIT."

theorem spoken_notice : spoken notice = [] := by
  decide

/-- The comment of a client that names its API. -/
def clientRemark (api : Api) : String :=
  "// Source: " ++ api.package ++ " (" ++ api.apiVersion.name ++ ")"

/-- The comment of a types file that names its package. -/
def typesRemark (types : Types) : String :=
  "// Source: " ++ types.package

theorem clause?_client (single : '\n' ∉ sdk.packageName.toList) (api : Api) :
    clause? (clientForm.client sdk api) = some (ledBy (clientRemark api) sdk.packageName) := by
  have first : "// Code generated by sdkgen. DO NOT EDIT.\n// Source: "
      = notice ++ "\n" ++ "// Source: " := rfl
  have second : ")\n\npackage " = ")" ++ "\n" ++ ("" ++ "\n" ++ "package ") := rfl
  obtain ⟨imports, third⟩ : ∃ imports, clientImports = "\n" ++ imports :=
    ⟨String.ofList (clientImports.toList.drop 1), by decide⟩
  obtain ⟨below, split⟩ : ∃ below, clientForm.client sdk api = notice ++ "\n"
      ++ (clientRemark api ++ "\n"
        ++ ("" ++ "\n" ++ (clauseOf sdk.packageName ++ "\n" ++ below))) := by
    unfold clientRemark
    rw [ClientForm.client, clientForm, first, second, third, clauseOf]
    simp only [String.append_assoc]
    exact ⟨_, rfl⟩
  rw [split, clause?_below spoken_notice, clause?_eq single]

theorem clause?_types (single : '\n' ∉ sdk.packageName.toList) (types : Types) :
    clause? (typesForm.source sdk types) = some (ledBy (typesRemark types) sdk.packageName) := by
  have first : "// Code generated by sdkgen. DO NOT EDIT.\n// Source: "
      = notice ++ "\n" ++ "// Source: " := rfl
  have second : "\n\npackage " = "\n" ++ ("" ++ "\n" ++ "package ") := rfl
  have third : "\n\nimport \"time\"\n\nvar _ time.Time\n"
      = "\n" ++ "\nimport \"time\"\n\nvar _ time.Time\n" := rfl
  obtain ⟨below, split⟩ : ∃ below, typesForm.source sdk types = notice ++ "\n"
      ++ (typesRemark types ++ "\n"
        ++ ("" ++ "\n" ++ (clauseOf sdk.packageName ++ "\n" ++ below))) := by
    unfold TypesForm.source typesForm typesRemark
    rw [first, second, third, clauseOf]
    simp only [String.append_assoc]
    exact ⟨_, rfl⟩
  rw [split, clause?_below spoken_notice, clause?_eq single]

theorem exists_transportEnd : ∃ below, transportEnd = "\n" ++ below := by
  let opening := transportStart ++ "\x7b\x7b goPackage \x7d\x7d"
  obtain ⟨lines, whole⟩ : ∃ lines, transportTemplate = opening ++ ("\n" ++ ofLines lines) := by
    rw [transportTemplate, ofLines_cons, ofLines_cons, ofLines_cons]
    exact ⟨_, by simp only [String.append_assoc]; rfl⟩
  refine ⟨ofLines lines, ?_⟩
  have length : opening.toList.length = 66 := by decide
  rw [transportEnd, whole, String.toList_append, List.drop_left' length, String.ofList_toList]

theorem clause?_transport (single : '\n' ∉ sdk.packageName.toList) :
    clause? (transportStart ++ sdk.packageName ++ transportEnd)
      = some (clauseOf sdk.packageName).toList := by
  have first : transportStart = notice ++ "\n" ++ ("" ++ "\n" ++ "package ") := rfl
  obtain ⟨below, second⟩ := exists_transportEnd
  have split : transportStart ++ sdk.packageName ++ transportEnd
      = notice ++ "\n" ++ ("" ++ "\n" ++ (clauseOf sdk.packageName ++ "\n" ++ below)) := by
    rw [first, second, clauseOf]
    simp only [String.append_assoc]
  rw [split, clause?_eq single, ledBy_of_silent spoken_notice]

theorem spoken_clientRemark {api : Api} (single : '\n' ∉ api.package.toList) :
    spoken (clientRemark api) = [] := by
  have start : "// Source: " = "// " ++ "Source: " := rfl
  unfold clientRemark
  simp only [start, String.append_assoc]
  refine spoken_comment ?_
  simp only [String.toList_append, List.mem_append, not_or]
  refine ⟨by decide, single, by decide, ?_, by decide⟩
  cases api.apiVersion <;> decide

theorem spoken_typesRemark {types : Types} (single : '\n' ∉ types.package.toList) :
    spoken (typesRemark types) = [] := by
  have start : "// Source: " = "// " ++ "Source: " := rfl
  unfold typesRemark
  rw [start, String.append_assoc]
  refine spoken_comment ?_
  simp only [String.toList_append, List.mem_append, not_or]
  exact ⟨by decide, single⟩

/-- A clause of Go: it names an identifier that is no keyword. -/
def IsLegal (clause : List Char) : Prop :=
  ∃ name, clause = (clauseOf name).toList ∧ isIdentifier name = true ∧ name ∉ keywords

theorem isLegal_clauseOf {name : String} :
    IsLegal (clauseOf name).toList ↔ isIdentifier name = true ∧ name ∉ keywords := by
  constructor
  · rintro ⟨other, same, legal⟩
    rw [clauseOf, clauseOf, String.toList_append, String.toList_append, List.append_cancel_left_eq,
      String.toList_inj] at same
    exact same ▸ legal
  · exact fun legal => ⟨name, rfl, legal⟩

theorem isPart_of_isPackageChar {c : Char} (h : Sdk.isPackageChar c = true) :
    (c.isAlphanum || c == '_') = true := by
  rw [Sdk.isPackageChar, Bool.or_eq_true, Bool.or_eq_true, decide_eq_true_iff] at h
  rw [Bool.or_eq_true, beq_iff_eq]
  obtain (lower | digit) | underscore := h
  · have letter : c.isAlpha = true := Bool.or_eq_true_iff.mpr (.inr lower)
    exact .inl (Bool.or_eq_true_iff.mpr (.inl letter))
  · exact .inl (Bool.or_eq_true_iff.mpr (.inr digit))
  · exact .inr underscore

theorem isStart_iff_of_isPackageChar {c : Char} (h : Sdk.isPackageChar c = true) :
    (c.isAlpha || c == '_') = true ↔ c.isDigit = false :=
  Naming.ascii_forall (P := fun c => Sdk.isPackageChar c = true →
      ((c.isAlpha || c == '_') = true ↔ c.isDigit = false))
    (by decide +kernel) (ascii_of_isPart (isPart_of_isPackageChar h)) h

theorem isIdentifier_packageName (valid : sdk.check = .ok ()) :
    isIdentifier sdk.packageName = true ↔
      ∀ c, sdk.packageName.toList.head? = some c → c.isDigit = false := by
  have usable := Sdk.isPackageName_of_check valid
  rw [Sdk.isPackageName, Bool.and_eq_true, List.any_eq_true, List.all_eq_true] at usable
  obtain ⟨⟨seen, there, -⟩, chars⟩ := usable
  rw [isIdentifier]
  cases spelled : sdk.packageName.toList with
  | nil =>
      rw [spelled] at there
      cases there
  | cons c cs =>
      rw [spelled] at chars
      obtain ⟨first, rest⟩ := List.forall_mem_cons.mp chars
      simp only [Bool.and_eq_true, List.all_eq_true, List.head?_cons, Option.some.injEq, forall_eq',
        isStart_iff_of_isPackageChar first]
      exact and_iff_left fun d mem => isPart_of_isPackageChar (rest d mem)

/-- The sources of a package share their clause, which names the package, as far as the comments
    above it say nothing. It is legal unless the name starts with a digit or is a keyword. -/
theorem sources_clause (valid : sdk.check = .ok ()) :
    ∃ target, builtin language sdk = .ok target ∧
      (IsLegal (clauseOf sdk.packageName).toList ↔
        (∀ c, sdk.packageName.toList.head? = some c → c.isDigit = false) ∧
          sdk.packageName ∉ keywords) ∧
      ∀ (api : Api) (types : Types), ∃ client records transport,
        target.emitClient api = .ok client ∧ target.emitTypes types = .ok records ∧
        (∃ file ∈ target.additional, file.path = "jsonrpc.go" ∧
          target.backend.emitAdditional file = .ok transport) ∧
        clause? client = some (ledBy (clientRemark api) sdk.packageName) ∧
        clause? records = some (ledBy (typesRemark types) sdk.packageName) ∧
        clause? transport = some (clauseOf sdk.packageName).toList ∧
        ('\n' ∉ api.package.toList → clause? client = clause? transport) ∧
        ('\n' ∉ types.package.toList → clause? records = clause? transport) := by
  obtain ⟨target, built, describes⟩ := target_describes valid
  have single := feed_not_mem_packageName valid
  refine ⟨target, built, ?_, fun api types => ⟨clientForm.client sdk api,
    typesForm.source sdk types, transportStart ++ sdk.packageName ++ transportEnd,
    describes.emitClient api, describes.emitTypes types, ?_, clause?_client single api,
    clause?_types single types, clause?_transport single, fun plain => ?_, fun plain => ?_⟩⟩
  · rw [isLegal_clauseOf, isIdentifier_packageName valid]
  · have additional := describes.additional
    generalize target.additional = files at additional ⊢
    cases additional with
    | cons _ rest =>
        cases rest with
        | cons transport _ => exact ⟨_, .tail _ (.head _), transport⟩
  · rw [clause?_client single, clause?_transport single,
      ledBy_of_silent (spoken_clientRemark plain)]
  · rw [clause?_types single, clause?_transport single,
      ledBy_of_silent (spoken_typesRemark plain)]

theorem sources_clause_default :
    ({} : Sdk).check = .ok () ∧ ∃ target, builtin language {} = .ok target ∧
      IsLegal "package api".toList ∧ ∃ client records transport,
        target.emitClient { package := "ledger" } = .ok client ∧
        target.emitTypes { package := "ledger" } = .ok records ∧
        (∃ file ∈ target.additional, file.path = "jsonrpc.go" ∧
          target.backend.emitAdditional file = .ok transport) ∧
        clause? client = some "package api".toList ∧
        clause? records = some "package api".toList ∧
        clause? transport = some "package api".toList := by
  obtain ⟨target, built, legal, emitted⟩ := sources_clause Sdk.default_check
  obtain ⟨client, records, transport, writtenClient, writtenRecords, writtenTransport, -, -, same,
    sameClient, sameRecords⟩ := emitted { package := "ledger" } { package := "ledger" }
  have name : ({} : Sdk).packageName = "api" := by decide
  have clause : (clauseOf ({} : Sdk).packageName).toList = "package api".toList := by
    rw [name]
    rfl
  rw [clause] at legal same
  rw [same] at sameClient sameRecords
  refine ⟨Sdk.default_check, target, built, legal.mpr ⟨?_, ?_⟩, client, records, transport,
    writtenClient, writtenRecords, writtenTransport, sameClient (by decide),
    sameRecords (by decide), same⟩
  · rw [name]
    intro c first
    cases first
    decide
  · rw [name]
    decide

/-- An accepted name that becomes a keyword. -/
theorem sources_clause_type :
    let sdk : Sdk := { name := "type" }
    sdk.check = .ok () ∧ ∃ target source, builtin language sdk = .ok target ∧
      target.emitTypes { package := "ledger" } = .ok source ∧
      clause? source = some "package type".toList ∧ ¬ IsLegal "package type".toList := by
  intro sdk
  have valid : sdk.check = .ok () := by decide
  obtain ⟨target, built, describes⟩ := target_describes valid
  have name : sdk.packageName = "type" := by decide
  have clause : (clauseOf "type").toList = "package type".toList := rfl
  refine ⟨valid, target, _, built, describes.emitTypes _, ?_, ?_⟩
  · have plain : '\n' ∉ ({ package := "ledger" } : Types).package.toList := by decide
    rw [← clause, ← name, ← ledBy_of_silent (spoken_typesRemark plain)]
    exact clause?_types (feed_not_mem_packageName valid) _
  · rw [← clause, isLegal_clauseOf]
    exact fun legal => legal.2 (by decide)

end ClientGen.Target.Go
